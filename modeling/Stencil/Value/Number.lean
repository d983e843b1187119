import Stencil.Numeral.Decimal
import Stencil.Numeral.Shortest
import Stencil.Value.Format

namespace Stencil

inductive Specifier
  /-- Decimal digits, at least `width` of them. -/
  | decimal (width : Nat)
  /-- Hexadecimal digits of the word of 64 bits, at least `width` of them. -/
  | hexadecimal (upper : Bool) (width : Nat)
  /-- A number of places after the point. -/
  | fixed (places : Nat)
  /-- The same, with the integral digits in groups. -/
  | grouped (places : Nat)
  deriving DecidableEq

/-- The number after the letter, or `default` if there is none. -/
def readCount (default : Nat) (text : List Char) : Option Nat :=
  if text.isEmpty then some default
  else if text.length ≤ 2 && text.all Char.isDigit then some (digitsValue text)
  else none

def Specifier.read : List Char → Option Specifier
  | 'D' :: count | 'd' :: count => (readCount 0 count).map decimal
  | 'X' :: count => (readCount 0 count).map (hexadecimal true)
  | 'x' :: count => (readCount 0 count).map (hexadecimal false)
  | 'F' :: count | 'f' :: count => (readCount 2 count).map fixed
  | 'N' :: count | 'n' :: count => (readCount 2 count).map grouped
  | _ => none

def writeMinus (negative : Bool) (symbols : Symbols) : Emission FormatError :=
  if negative then [.write symbols.minus] else []

/-- A decimal without sign. The point stands only before a fraction. -/
def writeDecimal (symbols : Symbols) (groups : Bool) (decimal : Decimal) :
    Emission FormatError :=
  let integral :=
    if groups then grouped symbols.separator.toList decimal.integral else decimal.integral
  .write (String.ofList integral) ::
    if decimal.fraction.isEmpty then []
    else [.write symbols.point, .write (String.ofList decimal.fraction)]

def padZeros (width : Nat) (text : List Char) : List Char := text.leftpad width '0'

def hexadecimal (upper : Bool) (word : UInt64) : List Char :=
  let lower := Nat.toDigits 16 word.toNat
  if upper then lower.map Char.toUpper else lower

def writeInteger (value : Int64) (format : Option String) (symbols : Symbols) :
    Emission FormatError :=
  let magnitude := value.toInt.natAbs
  let minus := writeMinus (value < 0) symbols
  match format with
  | none => minus ++ [.write (String.ofList (digits magnitude))]
  | some text =>
      match Specifier.read text.toList with
      | none => [.fail (.unsupported text .integer)]
      | some (.hexadecimal upper width) =>
          [.write (String.ofList (padZeros width (hexadecimal upper value.toUInt64)))]
      | some (.decimal width) =>
          minus ++ [.write (String.ofList (padZeros width (digits magnitude)))]
      | some (.fixed places) =>
          minus ++ writeDecimal symbols false ⟨digits magnitude, List.replicate places '0'⟩
      | some (.grouped places) =>
          minus ++ writeDecimal symbols true ⟨digits magnitude, List.replicate places '0'⟩

/-- The finite number rounded to a number of places, exactly, a tie to the even side. -/
def Double.rounded (x : Double) (places : Nat) : Decimal :=
  .ofScaled (roundDiv (units x.magnitude * Nat.pow 10 places) unitsPerOne) places

/-- What is not finite has no digits. A number that is all zeros as written has no sign. -/
def writeDouble (x : Double) (symbols : Symbols) (groups : Bool) (decimal : Decimal) :
    Emission FormatError :=
  if x.isNaN then [.write "NaN"]
  else if x.isInfinite then writeMinus x.isNegative symbols ++ [.write "Infinity"]
  else writeMinus (x.isNegative && !decimal.isZero) symbols ++ writeDecimal symbols groups decimal

def writeFloat (x : Double) (format : Option String) (symbols : Symbols) :
    Emission FormatError :=
  match format with
  | none => writeDouble x symbols false (shortest x.magnitude)
  | some text =>
      match Specifier.read text.toList with
      | some (.fixed places) => writeDouble x symbols false (x.rounded places)
      | some (.grouped places) => writeDouble x symbols true (x.rounded places)
      | _ => [.fail (.unsupported text .float)]

end Stencil
