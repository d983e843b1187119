import Mathlib.Order.Monotone.Basic
import Mathlib.Tactic.FieldSimp
import Mathlib.Tactic.Linarith
import Mathlib.Tactic.Positivity
import Mathlib.Tactic.Ring
import Stencil.Numeral.Exact

/-!
The values of magnitudes. From each magnitude to the next one the value grows by one unit of its
last bit, so magnitudes are ordered as the numbers are, and every value lies between two of them.
-/

namespace Stencil

/-- From this magnitude to the next one, in units. -/
def gap (magnitude : Nat) : Nat := 2 ^ (magnitude / mantissaCount - 1)

theorem gap_pos (magnitude : Nat) : 0 < gap magnitude := Nat.two_pow_pos _

theorem gap_dvd_gap {a b : Nat} (le : a ≤ b) : gap a ∣ gap b := by
  apply Nat.pow_dvd_pow
  exact Nat.sub_le_sub_right (Nat.div_le_div_right le) 1

theorem units_of_lt {magnitude : Nat} (small : magnitude < mantissaCount) :
    units magnitude = magnitude := if_pos small

/-- A normal magnitude by its shift and its mantissa. A mantissa that is carried over to the next
shift is no exception. -/
theorem units_shift {shift mantissa : Nat} (low : mantissaCount ≤ mantissa)
    (high : mantissa ≤ 2 * mantissaCount) :
    units (shift * mantissaCount + mantissa) = mantissa * 2 ^ shift := by
  rw [units, if_neg (by omega), Nat.pow_eq]
  simp only [mantissaCount] at *
  rcases Nat.lt_or_eq_of_le high with inside | carry
  · have last : (shift * 0x10000000000000 + mantissa) % 0x10000000000000 =
        mantissa - 0x10000000000000 := by omega
    have exponent : (shift * 0x10000000000000 + mantissa) / 0x10000000000000 - 1 = shift := by omega
    have whole : 0x10000000000000 + (mantissa - 0x10000000000000) = mantissa := by omega
    rw [last, exponent, whole]
  · have last : (shift * 0x10000000000000 + mantissa) % 0x10000000000000 = 0 := by omega
    have exponent : (shift * 0x10000000000000 + mantissa) / 0x10000000000000 - 1 = shift + 1 := by
      omega
    rw [last, exponent, carry, Nat.pow_succ]
    ring

theorem small_or_exists_shift (magnitude : Nat) :
    magnitude < mantissaCount ∨ ∃ shift mantissa, mantissaCount ≤ mantissa ∧
      mantissa < 2 * mantissaCount ∧ magnitude = shift * mantissaCount + mantissa := by
  simp only [mantissaCount]
  by_cases small : magnitude < 0x10000000000000
  · exact .inl small
  · refine .inr ⟨magnitude / 0x10000000000000 - 1,
      0x10000000000000 + magnitude % 0x10000000000000, ?_, ?_, ?_⟩ <;> omega

theorem gap_of_lt {magnitude : Nat} (small : magnitude < mantissaCount) : gap magnitude = 1 := by
  rw [gap, Nat.div_eq_of_lt small]
  rfl

theorem gap_shift {shift mantissa : Nat} (low : mantissaCount ≤ mantissa)
    (high : mantissa < 2 * mantissaCount) : gap (shift * mantissaCount + mantissa) = 2 ^ shift := by
  have exponent : (shift * mantissaCount + mantissa) / mantissaCount - 1 = shift := by
    simp only [mantissaCount] at *
    omega
  rw [gap, exponent]

theorem units_succ (magnitude : Nat) : units (magnitude + 1) = units magnitude + gap magnitude := by
  rcases small_or_exists_shift magnitude with small | ⟨shift, mantissa, low, high, rfl⟩
  · rw [units_of_lt small, gap_of_lt small]
    rcases Nat.lt_or_eq_of_le small with inside | carry
    · exact units_of_lt inside
    · have first : units (0 * mantissaCount + mantissaCount) = mantissaCount * 2 ^ 0 :=
        units_shift (Nat.le_refl _) (by omega)
      rw [show magnitude + 1 = mantissaCount from carry]
      simpa using first
  · rw [Nat.add_assoc, units_shift (by omega) high, units_shift low (Nat.le_of_lt high),
      gap_shift low high, Nat.succ_mul]

theorem units_strictMono : StrictMono units := by
  apply strictMono_nat_of_lt_succ
  intro magnitude
  rw [units_succ]
  exact Nat.lt_add_of_pos_right (gap_pos magnitude)

theorem units_zero : units 0 = 0 := rfl

theorem floorMagnitude_bounds (u : Nat) :
    units (floorMagnitude u) ≤ u ∧ u < units (floorMagnitude u + 1) := by
  rw [floorMagnitude]
  split
  · next small =>
      have exact_value : units u = u := by
        rcases small_or_exists_shift u with small | ⟨shift, mantissa, low, high, rfl⟩
        · exact units_of_lt small
        · have none_left : shift = 0 := by
            simp only [mantissaCount] at *
            omega
          rw [units_shift low (Nat.le_of_lt high), none_left]
          ring
      exact ⟨Nat.le_of_eq exact_value, by
        rw [units_succ, exact_value]
        exact Nat.lt_add_of_pos_right (gap_pos u)⟩
  · next large =>
      have nonzero : u ≠ 0 := by
        simp only [mantissaCount] at large
        omega
      have long : 53 ≤ Nat.log2 u := (Nat.le_log2 nonzero).mpr (by
        simp only [mantissaCount] at large
        omega)
      rcases Nat.exists_eq_add_of_le (show 52 ≤ Nat.log2 u by omega) with ⟨shift, split⟩
      have shifted : Nat.log2 u - 52 = shift := by omega
      have power : (2 : Nat) ^ 52 * 2 ^ shift = 2 ^ Nat.log2 u := by
        rw [← Nat.pow_add, ← split]
      have positive := Nat.two_pow_pos shift
      simp only [shifted, Nat.pow_eq]
      have low : mantissaCount ≤ u / 2 ^ shift := by
        apply (Nat.le_div_iff_mul_le positive).mpr
        exact Nat.le_trans (Nat.le_of_eq power) (Nat.log2_self_le nonzero)
      have high : u / 2 ^ shift < 2 * mantissaCount := by
        apply (Nat.div_lt_iff_lt_mul positive).mpr
        calc
          u < 2 ^ (Nat.log2 u + 1) := Nat.lt_log2_self
          _ = 2 * mantissaCount * 2 ^ shift := by
            rw [Nat.pow_succ, ← power]
            simp only [mantissaCount]
            ring
      rw [Nat.add_assoc, units_shift low (Nat.le_of_lt high), units_shift (by omega) high]
      exact ⟨Nat.div_mul_le_self u _,
        (Nat.div_lt_iff_lt_mul positive).mp (Nat.lt_succ_self _)⟩

theorem gap_dvd_units (magnitude : Nat) : gap magnitude ∣ units magnitude := by
  rcases small_or_exists_shift magnitude with small | ⟨shift, mantissa, low, high, rfl⟩
  · rw [gap_of_lt small]
    exact Nat.one_dvd _
  · rw [units_shift low (Nat.le_of_lt high), gap_shift low high]
    exact Nat.dvd_mul_left _ _

theorem unitsPerOne_pos : 0 < unitsPerOne := by decide +kernel

/-- The power is taken in two steps, each short enough to be evaluated. -/
theorem unitsPerOne_eq : unitsPerOne = (2 ^ 179) ^ 6 := by decide +kernel

theorem cast_unitsPerOne : (unitsPerOne : ℚ) = 2 ^ (1074 : ℤ) := by
  have exponent : (1074 : ℤ) = (179 : ℕ) * (6 : ℕ) := rfl
  rw [unitsPerOne_eq, exponent, zpow_mul, zpow_natCast, zpow_natCast]
  exact_mod_cast rfl

theorem cast_unitsPerOne_pos : (0 : ℚ) < unitsPerOne := Nat.cast_pos.mpr unitsPerOne_pos

def magnitudeValue (magnitude : Nat) : ℚ := units magnitude / unitsPerOne

theorem magnitudeValue_strictMono : StrictMono magnitudeValue := by
  intro a b less
  apply (div_lt_div_iff_of_pos_right cast_unitsPerOne_pos).mpr
  exact Nat.cast_lt.mpr (units_strictMono less)

theorem magnitudeValue_zero : magnitudeValue 0 = 0 := by
  rw [magnitudeValue, units_zero, Nat.cast_zero, zero_div]

theorem magnitudeValue_nonneg (magnitude : Nat) : 0 ≤ magnitudeValue magnitude :=
  div_nonneg (Nat.cast_nonneg _) (Nat.cast_nonneg _)

theorem magnitudeValue_pos_iff {magnitude : Nat} :
    0 < magnitudeValue magnitude ↔ 0 < magnitude := by
  rw [← magnitudeValue_zero]
  exact magnitudeValue_strictMono.lt_iff_lt

theorem abs_signed (negative : Bool) (q : ℚ) : |if negative then -q else q| = |q| := by
  cases negative with
  | false => rfl
  | true => exact abs_neg q

theorem abs_signed_sub (negative : Bool) (a b : ℚ) :
    |(if negative then -a else a) - b| = |a - if negative then -b else b| := by
  cases negative with
  | false => rfl
  | true =>
      rw [if_pos rfl, if_pos rfl, ← abs_neg]
      congr 1
      ring

namespace Double

variable (x : Double)

theorem magnitude_eq : x.magnitude = x.exponent * mantissaCount + x.mantissa := by
  have word := x.bits.toNat_lt
  simp only [magnitude, exponent, mantissa, signBit, mantissaCount]
  omega

theorem ofMagnitude_magnitude : ofMagnitude x.isNegative x.magnitude = x := by
  have word := x.bits.toNat_lt
  have whole : (if x.isNegative then signBit + x.magnitude else x.magnitude) = x.bits.toNat := by
    cases sign : x.isNegative with
    | true =>
        have high : signBit ≤ x.bits.toNat := of_decide_eq_true sign
        simp only [magnitude, signBit, if_true] at *
        omega
    | false =>
        have low : ¬ signBit ≤ x.bits.toNat := of_decide_eq_false sign
        simp only [magnitude, signBit, Bool.false_eq_true, if_false] at *
        omega
  rw [ofMagnitude, whole, UInt64.ofNat_toNat]

section

variable {magnitude : Nat} (inside : magnitude < infiniteMagnitude) (negative : Bool)
include inside

theorem magnitude_ofMagnitude : (ofMagnitude negative magnitude).magnitude = magnitude := by
  cases negative <;> simp only [ofMagnitude, Double.magnitude, infiniteMagnitude, signBit,
    if_true, Bool.false_eq_true, if_false, UInt64.toNat_ofNat'] at * <;> omega

theorem isNegative_ofMagnitude : (ofMagnitude negative magnitude).isNegative = negative := by
  cases negative <;> simp only [ofMagnitude, isNegative, infiniteMagnitude, signBit,
    if_true, Bool.false_eq_true, if_false, UInt64.toNat_ofNat', decide_eq_true_iff,
    decide_eq_false_iff_not] at * <;> omega

end

theorem mantissa_lt : x.mantissa < mantissaCount := Nat.mod_lt _ (by decide)

theorem value_eq :
    x.value = if x.isNegative then -magnitudeValue x.magnitude
      else magnitudeValue x.magnitude := by
  have size : (if x.exponent = 0 then (x.mantissa * 2 ^ (-1074 : ℤ) : ℚ)
      else (2 ^ 52 + x.mantissa) * 2 ^ (x.exponent - 1075 : ℤ)) =
        magnitudeValue x.magnitude := by
    rw [magnitudeValue, cast_unitsPerOne, magnitude_eq, div_eq_mul_inv, ← zpow_neg]
    split
    · next least =>
        rw [least, Nat.zero_mul, Nat.zero_add, units_of_lt x.mantissa_lt]
    · next normal =>
        rcases Nat.exists_eq_add_one_of_ne_zero normal with ⟨shift, exponent⟩
        have mantissa := x.mantissa_lt
        have shifted : x.exponent * mantissaCount + x.mantissa =
            shift * mantissaCount + (mantissaCount + x.mantissa) := by
          rw [exponent, Nat.add_mul, Nat.one_mul, Nat.add_assoc]
        have power : (x.exponent - 1075 : ℤ) = shift + -1074 := by
          rw [exponent]
          push_cast
          ring
        have count : (mantissaCount : ℚ) = 2 ^ 52 := by norm_num [mantissaCount]
        rw [shifted, units_shift (by omega) (by omega), power, zpow_add₀ two_ne_zero,
          zpow_natCast, Nat.cast_mul, Nat.cast_add, count, Nat.cast_pow, Nat.cast_ofNat, mul_assoc]
  simp only [value, size]

theorem abs_value : |x.value| = magnitudeValue x.magnitude := by
  rw [value_eq, abs_signed, abs_of_nonneg (magnitudeValue_nonneg x.magnitude)]

theorem value_neg_iff : x.value < 0 ↔ x.isNegative ∧ 0 < x.magnitude := by
  have size := magnitudeValue_nonneg x.magnitude
  rw [value_eq, ← magnitudeValue_pos_iff]
  cases x.isNegative with
  | true => simp
  | false => simpa using size

end Double

end Stencil
