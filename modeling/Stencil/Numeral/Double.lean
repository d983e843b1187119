/-!
Rounding a quotient to a whole number, and double precision numbers, as words of 64 bits. Without
its sign bit the word of a number is its magnitude; magnitudes are ordered as the numbers are. Every
finite number is a whole multiple of `2 ^ -1074`, and `units` tells which.
-/

namespace Stencil

/-- The whole number nearest to `n / d`. Of two equally near ones the even one counts. -/
def roundDiv (n d : Nat) : Nat :=
  let below := n / d
  let rest := 2 * (n % d)
  if rest < d then below
  else if d < rest then below + 1
  else below + below % 2

theorem roundDiv_mul (n d : Nat) (positive : 0 < d) : roundDiv (n * d) d = n := by
  simp [roundDiv, positive]

/-- The rounded number is within half a unit. -/
theorem roundDiv_near (n d : Nat) (positive : 0 < d) :
    2 * n ≤ (2 * roundDiv n d + 1) * d ∧ 2 * roundDiv n d * d ≤ 2 * n + d := by
  have whole := Nat.div_add_mod n d
  have small := Nat.mod_lt n positive
  have parity : n / d % 2 = 0 ∨ n / d % 2 = 1 := by omega
  simp only [roundDiv]
  generalize n / d = below at *
  generalize n % d = rest at *
  split
  · constructor <;> grind
  · split
    · constructor <;> grind
    · rcases parity with even | odd
      · rw [even]; constructor <;> grind
      · rw [odd]; constructor <;> grind

structure Double where
  bits : UInt64
  deriving DecidableEq

def signBit : Nat := 0x8000000000000000

/-- The number of mantissas to one exponent, and the bit that a normal number leaves out. -/
def mantissaCount : Nat := 0x10000000000000

def unitsPerOne : Nat := Nat.pow 2 1074

/-- The magnitude of infinity. The magnitudes above it are no numbers. -/
def infiniteMagnitude : Nat := 0x7ff0000000000000

def quietMagnitude : Nat := 0x7ff8000000000000

/-- The value of a magnitude in units. For the magnitude of infinity this is the power of two that
would come next. -/
def units (magnitude : Nat) : Nat :=
  if magnitude < mantissaCount then magnitude
  else
    (mantissaCount + magnitude % mantissaCount) * Nat.pow 2 (magnitude / mantissaCount - 1)

def floorMagnitude (u : Nat) : Nat :=
  if u < 2 * mantissaCount then u
  else
    let shift := Nat.log2 u - 52
    shift * mantissaCount + u / Nat.pow 2 shift

/-- The magnitude nearest to the number `n / d`. Of two equally near ones the even one counts, and
all beyond the greatest number is infinite. -/
def nearestMagnitude (n d : Nat) : Nat :=
  let below := floorMagnitude (n * unitsPerOne / d)
  let doubled := 2 * n * unitsPerOne
  let middle := (units below + units (below + 1)) * d
  let nearest :=
    if doubled < middle then below
    else if middle < doubled then below + 1
    else below + below % 2
  min nearest infiniteMagnitude

namespace Double

def isNegative (x : Double) : Bool := signBit ≤ x.bits.toNat

def magnitude (x : Double) : Nat := x.bits.toNat % signBit

def ofMagnitude (negative : Bool) (magnitude : Nat) : Double :=
  ⟨UInt64.ofNat (if negative then signBit + magnitude else magnitude)⟩

def isNaN (x : Double) : Bool := infiniteMagnitude < x.magnitude

def isInfinite (x : Double) : Bool := x.magnitude == infiniteMagnitude

def isFinite (x : Double) : Bool := x.magnitude < infiniteMagnitude

end Double

end Stencil
