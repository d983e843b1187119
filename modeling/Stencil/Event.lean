import Stencil.Template.Basic
import Stencil.Text.Quoted

namespace Stencil

inductive Event
  /-- A fragment is no hole and stays text. -/
  | keptText (fragment : String) (diagnostic : Diagnostic)
  | mixed (template : String)
  | cacheHit (template : String)
  | uncacheable (bytes : Nat)
  | cacheFull (entries : Nat)

namespace Event

def text (n : Nat) : String := String.ofList (digits n)

def line : Event → String
  | keptText fragment diagnostic =>
      "DEBUG treating " ++ quoted fragment ++ " at " ++ diagnostic.span.text
        ++ " as literal text: " ++ diagnostic.fault.message
  | mixed template =>
      "DEBUG template " ++ quoted template ++ " mixes named and positional placeholders"
  | cacheHit template => "TRACE template cache hit for " ++ quoted template
  | uncacheable bytes => "DEBUG template of " ++ text bytes ++ " bytes is not cacheable"
  | cacheFull entries =>
      "DEBUG template cache reached " ++ text entries ++ " entries; clearing"

def ofParse (template : String) : List Event :=
  (Template.check template).map fun diagnostic =>
    keptText (String.ofList (diagnostic.span.slice template.toList)) diagnostic

def ofNamed (template : Template) : List Event :=
  if template.isMixed then [mixed template.text] else []

end Event

end Stencil
