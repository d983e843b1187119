import Stencil.Proofs.Numeral.Grammar
import Stencil.Proofs.Numeral.Nearest

namespace Stencil

namespace RoundsTo

variable {n d : Nat}

theorem zero_of_small (positive : 0 < d) (small : n * (10 ^ 165) ^ 2 < d) : RoundsTo 0 n d := by
  have bound : 2 * unitsPerOne ≤ (10 ^ 165) ^ 2 := by decide +kernel
  have less : 2 * n * unitsPerOne < d := by
    generalize unitsPerOne = one at *
    generalize (10 ^ 165) ^ 2 = limit at *
    calc
      2 * n * one = n * (2 * one) := by ring
      _ ≤ n * limit := Nat.mul_le_mul_left n bound
      _ < d := small
  have next : units 0 + units (0 + 1) = 1 := rfl
  refine of_le positive ?_ ?_ fun _ => rfl
  · rw [units_zero, Nat.zero_mul]
    exact Nat.zero_le _
  · rw [next, Nat.one_mul]
    exact Nat.le_of_lt less

theorem zero (positive : 0 < d) : RoundsTo 0 0 d :=
  of_eq positive (by rw [units_zero, Nat.zero_mul, Nat.zero_mul])

end RoundsTo

namespace Scientific

def numerator (number : Scientific) : Nat := number.unscaled * 10 ^ number.scale.toNat

def denominator (number : Scientific) : Nat := 10 ^ (-number.scale).toNat

section

variable (number : Scientific)

theorem denominator_pos : 0 < number.denominator := Nat.pow_pos (by decide)

theorem value_eq : number.value =
    if number.negative then -(number.numerator / number.denominator : ℚ)
    else number.numerator / number.denominator := by
  have scaled : (10 : ℚ) ^ number.scale =
      10 ^ number.scale.toNat / 10 ^ (-number.scale).toNat := by
    rw [← zpow_natCast, ← zpow_natCast, ← zpow_sub₀ (by norm_num)]
    congr 1
    omega
  have size : (digitsValue (number.integral ++ number.fraction) *
      10 ^ (number.exponent - number.fraction.length : ℤ) : ℚ) =
        number.numerator / number.denominator := by
    change (number.unscaled * 10 ^ number.scale : ℚ) = _
    rw [scaled, numerator, denominator, mul_div_assoc']
    push_cast
    rfl
  simp only [value, size]

theorem abs_value : |number.value| = number.numerator / number.denominator := by
  rw [value_eq, abs_signed]
  exact abs_of_nonneg (div_nonneg (Nat.cast_nonneg _) (Nat.cast_nonneg _))

end

section

variable {number : Scientific}

theorem nearestMagnitude_of_long (nonzero : number.unscaled ≠ 0)
    (long : 310 < (digits number.unscaled).length + number.scale) :
    nearestMagnitude number.numerator number.denominator = infiniteMagnitude := by
  apply Nat.le_antisymm (Nat.min_le_right _ _)
  by_contra finite
  have rounds := RoundsTo.of_nearestMagnitude number.denominator_pos (Nat.lt_of_not_le finite)
  have less : number.numerator < 10 ^ (310 + (-number.scale).toNat) :=
    rounds.lt_pow (Nat.lt_of_not_le finite)
  have present : 0 < (digits number.unscaled).length :=
    List.length_pos_iff.mpr Nat.toDigits_ne_nil
  have greater : 10 ^ (310 + (-number.scale).toNat) ≤ number.numerator := by
    calc
      10 ^ (310 + (-number.scale).toNat) ≤
          10 ^ ((digits number.unscaled).length - 1 + number.scale.toNat) :=
        Nat.pow_le_pow_right (by decide) (by omega)
      _ = 10 ^ ((digits number.unscaled).length - 1) * 10 ^ number.scale.toNat := Nat.pow_add _ _ _
      _ ≤ number.numerator := Nat.mul_le_mul_right _ (pow_length_digits_le nonzero)
  exact Nat.lt_irrefl _ (Nat.lt_of_lt_of_le less greater)

theorem nearestMagnitude_of_small
    (small : (digits number.unscaled).length + number.scale < -330) :
    nearestMagnitude number.numerator number.denominator = 0 := by
  have present : 0 < (digits number.unscaled).length :=
    List.length_pos_iff.mpr Nat.toDigits_ne_nil
  have none_left : number.scale.toNat = 0 := by omega
  have less : number.numerator * (10 ^ 165) ^ 2 < number.denominator := by
    rw [numerator, none_left, Nat.pow_zero, Nat.mul_one, ← Nat.pow_mul]
    calc
      number.unscaled * 10 ^ (165 * 2) < 10 ^ (digits number.unscaled).length * 10 ^ (165 * 2) :=
        Nat.mul_lt_mul_of_pos_right ((length_digits_le_iff present).mp (Nat.le_refl _))
          (Nat.pow_pos (by decide))
      _ = 10 ^ ((digits number.unscaled).length + 165 * 2) := (Nat.pow_add _ _ _).symm
      _ ≤ number.denominator := Nat.pow_le_pow_right (by decide) (by omega)
  exact (RoundsTo.zero_of_small number.denominator_pos less).nearestMagnitude_eq
    number.denominator_pos (by decide)

end

section

variable (number : Scientific)

/-- Without the bounds on the count of digits the same magnitude is found. -/
theorem magnitude_eq :
    number.magnitude = nearestMagnitude number.numerator number.denominator := by
  rw [Scientific.magnitude]
  by_cases zero : number.unscaled = 0
  · have rounds : RoundsTo 0 number.numerator number.denominator := by
      rw [numerator, zero, Nat.zero_mul]
      exact .zero number.denominator_pos
    rw [if_pos zero, rounds.nearestMagnitude_eq number.denominator_pos (by decide)]
  · rw [if_neg zero]
    split
    · next long => exact (nearestMagnitude_of_long zero long).symm
    · split
      · next small => exact (nearestMagnitude_of_small small).symm
      · split
        · next whole =>
            have no_places : (-number.scale).toNat = 0 := by omega
            rw [denominator, no_places, Nat.pow_zero]
            rfl
        · next fraction =>
            have no_zeros : number.scale.toNat = 0 := by omega
            rw [numerator, no_zeros, Nat.pow_zero, Nat.mul_one]
            rfl

theorem magnitude_le : number.magnitude ≤ infiniteMagnitude := by
  rw [magnitude_eq]
  exact Nat.min_le_right _ _

theorem magnitude_lt_iff :
    number.magnitude < infiniteMagnitude ↔ |number.value| < 2 ^ 1024 - 2 ^ 970 := by
  rw [magnitude_eq, nearestMagnitude_lt_iff number.denominator_pos, abs_value]

end

section

variable {number : Scientific} {magnitude : Nat} (finite : magnitude < infiniteMagnitude)
include finite

theorem magnitude_eq_iff : number.magnitude = magnitude ↔
    RoundsTo magnitude number.numerator number.denominator := by
  rw [magnitude_eq]
  constructor
  · intro same
    rw [← same] at finite ⊢
    exact .of_nearestMagnitude number.denominator_pos finite
  · intro rounds
    exact rounds.nearestMagnitude_eq number.denominator_pos finite

end

end Scientific

namespace Double

theorem isFinite_ofMagnitude_iff {magnitude : Nat} (bound : magnitude ≤ infiniteMagnitude)
    (negative : Bool) :
    (ofMagnitude negative magnitude).isFinite ↔ magnitude < infiniteMagnitude := by
  rcases Nat.lt_or_eq_of_le bound with finite | infinite
  · rw [isFinite, magnitude_ofMagnitude finite, decide_eq_true_iff]
  · subst infinite
    cases negative <;> decide

end Double

namespace Scientific

variable {number : Scientific} {x : Double}

theorem isFinite_toDouble_iff :
    number.toDouble.isFinite ↔ number.magnitude < infiniteMagnitude :=
  Double.isFinite_ofMagnitude_iff number.magnitude_le _

theorem toDouble_eq_iff : number.toDouble.isFinite ∧ number.toDouble = x ↔
    x.IsNearest number.value ∧ x.isNegative = number.negative := by
  rw [value_eq]
  constructor
  · intro read
    rcases read with ⟨finite, rfl⟩
    have inside := isFinite_toDouble_iff.mp finite
    have sign : number.toDouble.isNegative = number.negative :=
      Double.isNegative_ofMagnitude inside _
    have rounds : RoundsTo number.toDouble.magnitude number.numerator number.denominator := by
      rw [toDouble, Double.magnitude_ofMagnitude inside, ← magnitude_eq_iff inside]
    rw [← sign]
    exact ⟨Double.isNearest_of_roundsTo finite rounds number.denominator_pos, rfl⟩
  · intro nearest
    rcases nearest with ⟨nearest, sign⟩
    rw [← sign, Double.isNearest_iff_roundsTo number.denominator_pos] at nearest
    rcases nearest with ⟨finite, rounds⟩
    have same := (magnitude_eq_iff (of_decide_eq_true finite)).mpr rounds
    have whole : number.toDouble = x := by
      rw [toDouble, same, ← sign]
      exact x.ofMagnitude_magnitude
    exact ⟨whole.symm ▸ finite, whole⟩

end Scientific

end Stencil
