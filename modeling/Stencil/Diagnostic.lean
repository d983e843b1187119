import Stencil.Numeral.Decimal
import Stencil.Text.Span

namespace Stencil

inductive Fault
  | unclosed
  | empty
  | badName
  | badAlignment
  | strayBrace
  deriving DecidableEq

def Fault.message : Fault → String
  | unclosed => "placeholder is never closed"
  | empty => "placeholder has no property name"
  | badName => "property names may only contain letters, digits and underscores"
  | badAlignment => "alignment must be a non-zero whole number"
  | strayBrace => "unmatched `\x7d`; write `\x7d\x7d` for a literal brace"

structure Diagnostic where
  fault : Fault
  span : Span
  deriving DecidableEq

def Span.text (span : Span) : String :=
  String.ofList (digits span.start ++ ['.', '.'] ++ digits span.stop)

def Diagnostic.message (diagnostic : Diagnostic) : String :=
  diagnostic.span.text ++ ": " ++ diagnostic.fault.message

end Stencil
