import Stencil.Numeral.Scientific
import Stencil.Value.Number

namespace Stencil

inductive Scalar
  | null
  | bool (value : Bool)
  | int (value : Int64)
  | float (value : Double)
  | str (value : String)
  deriving DecidableEq

def escaped : List Char → List Char
  | [] => []
  | c :: rest => if c = '"' ∨ c = '\\' then '\\' :: c :: escaped rest else c :: escaped rest

/-- A string is written in quotes, but the format `l` leaves it as it is. -/
def writeString (text : String) (format : Option String) : Emission FormatError :=
  if format = some "l" then [.write text]
  else [.write (String.ofList ('"' :: escaped text.toList ++ ['"']))]

namespace Scalar

def value : Scalar → Value
  | null, _, _ => [.write "null"]
  | bool b, _, _ => [.write (if b then "true" else "false")]
  | int i, format, symbols => writeInteger i format symbols
  | float x, format, symbols => writeFloat x format symbols
  | str s, format, _ => writeString s format

def int? (text : List Char) : Option Int64 := do
  let n ← readInteger text
  if Int64.minValue.toInt ≤ n ∧ n ≤ Int64.maxValue.toInt then some (Int64.ofInt n) else none

def float? (text : List Char) : Option Double := do
  let number ← Scientific.read text
  if number.toDouble.isFinite then some number.toDouble else none

/-- The narrowest scalar that fits the text. -/
def infer (text : String) : Scalar :=
  if text = "null" then null
  else if text = "true" then bool true
  else if text = "false" then bool false
  else
    match int? text.toList with
    | some i => int i
    | none =>
        match float? text.toList with
        | some x => float x
        | none => str text

end Scalar

end Stencil
