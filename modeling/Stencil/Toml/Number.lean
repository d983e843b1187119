import Stencil.Numeral.Scientific
import Stencil.Toml.Lexis

namespace Stencil.Toml

def sign? : List Char → List Char × List Char
  | '+' :: rest => (['+'], rest)
  | '-' :: rest => (['-'], rest)
  | text => ([], text)

/-- A whole decimal number as it is written, but without underscores. Nothing may follow a leading
zero. -/
def wholeText (text : List Char) : Option (List Char × List Char) :=
  match sign? text with
  | (sign, '0' :: rest) => some (sign ++ ['0'], rest)
  | (sign, rest) => (digitRun 10 rest).map fun (digits, rest) => (sign ++ digits, rest)

def fractionText : Reader (List Char)
  | '.' :: rest =>
      (digitRun 10 rest).map fun (digits, rest) => ('.' :: digits, rest)
  | _ => none

def exponentText : Reader (List Char)
  | [] => none
  | c :: rest =>
      if c = 'e' ∨ c = 'E' then
        match sign? rest with
        | (sign, rest) =>
            (digitRun 10 rest).map fun (digits, rest) => ('e' :: sign ++ digits, rest)
      else none

def floatTail : Reader (List Char) := fun text =>
  match fractionText text with
  | none => exponentText text
  | some (fraction, rest) =>
      match exponentText rest with
      | none => some (fraction, rest)
      | some (exponent, rest) => some (fraction ++ exponent, rest)

def float? (text : List Char) : Option (Double × List Char) := do
  let (whole, rest) ← wholeText text
  let (tail, rest) ← floatTail rest
  let x := (← Scientific.read (whole ++ tail)).toDouble
  if x.isInfinite && !x.isNegative then none else some (x, rest)

def special? (text : List Char) : Option (Double × List Char) :=
  match sign? text with
  | (sign, rest) =>
      let negative := sign == ['-']
      match expect "inf".toList rest, expect "nan".toList rest with
      | some rest, _ => some (.ofMagnitude negative infiniteMagnitude, rest)
      | _, some rest => some (.ofMagnitude negative quietMagnitude, rest)
      | none, none => none

def isWord (n : Int) : Bool := Int64.minValue.toInt ≤ n && n ≤ Int64.maxValue.toInt

def integerIn (base : Nat) (text : List Char) : Option (Int × List Char) := do
  let (digits, rest) ← digitRun base text
  let n : Int := valueIn base digits
  if isWord n then some (n, rest) else none

def integer? (text : List Char) : Option (Int × List Char) :=
  match text with
  | '0' :: 'x' :: rest => integerIn 16 rest
  | '0' :: 'o' :: rest => integerIn 8 rest
  | '0' :: 'b' :: rest => integerIn 2 rest
  | _ => do
      let (whole, rest) ← wholeText text
      let n ← readInteger whole
      if isWord n then some (n, rest) else none

end Stencil.Toml
