import Stencil.Diagnostic
import Stencil.Hole.Basic
import Stencil.Text.Classes
import Stencil.Text.Cut

namespace Stencil

structure Sections where
  name : List Char
  alignment : Option (List Char)
  format : Option (List Char)
  deriving DecidableEq

/-- The first `:` begins the format, so a `,` counts only before it. -/
def sections (content : List Char) : Sections :=
  let head := cutAt ':' content
  let name := cutAt ',' head.1
  ⟨name.1, name.2, head.2⟩

def isNameChar (c : Char) : Bool := isAlphanumeric c || c == '_'

def isName (text : List Char) : Bool := !text.isEmpty && text.all isNameChar

def splitSigil : List Char → Hint × List Char
  | [] => (.plain, [])
  | c :: rest =>
      match Hint.ofSigil c with
      | some hint => (hint, rest)
      | none => (.plain, c :: rest)

def readSigned (text : List Char) : Option Int :=
  match text with
  | '-' :: rest => if isDigits rest then some (-(digitsValue rest : Int)) else none
  | _ => if isDigits text then some (digitsValue text) else none

/-- The width has to fit a signed word of 32 bits, and not to be zero. -/
def readAlignment (text : List Char) : Option Alignment := do
  let width ← readSigned text
  if Int32.minValue.toInt ≤ width ∧ width ≤ Int32.maxValue.toInt then
    Alignment.ofSigned (Int32.ofInt width)
  else none

def readHole (content : List Char) (start : Nat) : Except Fault Hole :=
  if content.isEmpty then .error .empty else
  let parts := sections content
  let (hint, name) := splitSigil parts.name
  if !isName name then .error .badName else
  let hole (alignment : Option Alignment) : Hole :=
    { name := String.ofList name
      raw := String.ofList ('{' :: content ++ ['}'])
      alignment
      format := (parts.format.filter (!·.isEmpty)).map String.ofList
      hint
      start }
  match parts.alignment with
  | none => .ok (hole none)
  | some text =>
      match readAlignment text with
      | none => .error .badAlignment
      | some alignment => .ok (hole (some alignment))

end Stencil
