import Stencil.Numeral.Decimal
import Stencil.Numeral.Double
import Stencil.Text.Cut

/-!
Reading decimal numbers with a point and an exponent, and the double nearest to one.
-/

namespace Stencil

/-- The number `± integral . fraction · 10 ^ exponent`. -/
structure Scientific where
  negative : Bool
  integral : List Char
  fraction : List Char
  exponent : Int
  deriving DecidableEq

def splitSign : List Char → Bool × List Char
  | '-' :: rest => (true, rest)
  | '+' :: rest => (false, rest)
  | text => (false, text)

def readInteger (text : List Char) : Option Int :=
  let (negative, magnitude) := splitSign text
  if isDigits magnitude then
    some (if negative then -(digitsValue magnitude : Int) else digitsValue magnitude)
  else none

def readMantissa (text : List Char) : Option (List Char × List Char) :=
  let (integral, after) := cutAt '.' text
  let fraction := after.getD []
  if isDigits (integral ++ fraction) then some (integral, fraction) else none

namespace Scientific

def read (text : List Char) : Option Scientific := do
  let (negative, unsigned) := splitSign text
  let (mantissa, after) := cutAt 'e' (unsigned.map fun c => if c = 'E' then 'e' else c)
  let (integral, fraction) ← readMantissa mantissa
  let exponent ← after.elim (some 0) readInteger
  return ⟨negative, integral, fraction, exponent⟩

def unscaled (number : Scientific) : Nat := digitsValue (number.integral ++ number.fraction)

def scale (number : Scientific) : Int := number.exponent - number.fraction.length

/-- The nearest magnitude. What is at least `10 ^ 310` is infinite, and what is below `10 ^ -330` is
zero, so that no greater power of ten is needed. -/
def magnitude (number : Scientific) : Nat :=
  let n := number.unscaled
  let order := (digits n).length + number.scale
  if n = 0 then 0
  else if 310 < order then infiniteMagnitude
  else if order < -330 then 0
  else if 0 ≤ number.scale then nearestMagnitude (n * Nat.pow 10 number.scale.toNat) 1
  else nearestMagnitude n (Nat.pow 10 (-number.scale).toNat)

def toDouble (number : Scientific) : Double := .ofMagnitude number.negative number.magnitude

end Scientific

end Stencil
