import Mathlib.Algebra.Order.Field.Rat
import Mathlib.Algebra.Order.Group.Unbundled.Abs
import Mathlib.Algebra.Field.Basic
import Stencil.Numeral.Double

/-!
Doubles as rational numbers, and what it means that a rational number is rounded correctly, to a
whole number or to a double.
-/

namespace Stencil

namespace Double

def exponent (x : Double) : Nat := x.bits.toNat / 0x10000000000000 % 0x800

def mantissa (x : Double) : Nat := x.bits.toNat % 0x10000000000000

/-- The number that the bits of a finite double stand for. A normal number has one bit more in
front of its mantissa; the numbers of the least exponent have none. -/
def value (x : Double) : ℚ :=
  let size : ℚ :=
    if x.exponent = 0 then x.mantissa * 2 ^ (-1074 : ℤ)
    else (2 ^ 52 + x.mantissa) * 2 ^ (x.exponent - 1075 : ℤ)
  if x.isNegative then -size else size

end Double

/-- The whole number nearest to a rational one, and of two equally near ones the even one. -/
structure IsRounded (q : ℚ) (n : ℕ) : Prop where
  near : |q - n| ≤ 1 / 2
  even : |q - n| = 1 / 2 → Even n

/-- The double that a rational number is rounded to: no other one is nearer, and if another one is
as near, this one is even. A number half a step beyond the greatest double is infinite. -/
structure Double.IsNearest (x : Double) (q : ℚ) : Prop where
  finite : x.isFinite
  inside : |q| < 2 ^ 1024 - 2 ^ 970
  near : ∀ y : Double, y.isFinite → |q - x.value| ≤ |q - y.value|
  even : ∀ y : Double, y.isFinite → y.value ≠ x.value → |q - y.value| = |q - x.value| →
    Even x.mantissa

end Stencil
