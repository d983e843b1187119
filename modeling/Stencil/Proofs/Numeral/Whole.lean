import Stencil.Proofs.Numeral.Nearest

namespace Stencil

/-- The magnitude of `2 ^ 52`, from which on the gaps are whole numbers. -/
def wholeMagnitude : Nat := 1075 * mantissaCount

theorem gap_eq_unitsPerOne {magnitude : Nat} (low : wholeMagnitude ≤ magnitude)
    (high : magnitude < wholeMagnitude + mantissaCount) : gap magnitude = unitsPerOne := by
  have exponent : magnitude / mantissaCount - 1 = 179 * 6 := by
    simp only [wholeMagnitude, mantissaCount] at *
    omega
  rw [gap, exponent, Nat.pow_mul, unitsPerOne_eq]

/-- The number `2 ^ 53` is the least whole number whose successor is no double. -/
theorem units_next_wholeMagnitude :
    units (wholeMagnitude + mantissaCount) = 2 * mantissaCount * unitsPerOne := by
  have shifted : wholeMagnitude + mantissaCount =
      179 * 6 * mantissaCount + 2 * mantissaCount := by decide
  rw [shifted, units_shift (by decide) (Nat.le_refl _), Nat.pow_mul, unitsPerOne_eq]

theorem dvd_units_of_le {magnitude : Nat} (le : wholeMagnitude ≤ magnitude) :
    unitsPerOne ∣ units magnitude := by
  rw [← gap_eq_unitsPerOne (Nat.le_refl _) (by decide)]
  exact Nat.dvd_trans (gap_dvd_gap le) (gap_dvd_units magnitude)

theorem exists_units_eq {n : Nat} (small : n ≤ 2 * mantissaCount) :
    ∃ magnitude ≤ wholeMagnitude + mantissaCount, units magnitude = n * unitsPerOne := by
  rcases Nat.lt_or_eq_of_le small with less | last
  · rcases floorMagnitude_bounds (n * unitsPerOne) with ⟨low, high⟩
    generalize floorMagnitude (n * unitsPerOne) = below at *
    have inside : below < wholeMagnitude + mantissaCount := by
      rw [← units_strictMono.lt_iff_lt, units_next_wholeMagnitude]
      exact Nat.lt_of_le_of_lt low (Nat.mul_lt_mul_of_pos_right less unitsPerOne_pos)
    refine ⟨below, Nat.le_of_lt inside, ?_⟩
    -- Both are multiples of the gap between them.
    have fine : gap below ∣ unitsPerOne := by
      have last : gap (wholeMagnitude + mantissaCount - 1) = unitsPerOne :=
        gap_eq_unitsPerOne (by decide) (by decide)
      rw [← last]
      exact gap_dvd_gap (Nat.le_sub_one_of_lt inside)
    have apart : gap below ∣ n * unitsPerOne - units below :=
      Nat.dvd_sub (Nat.dvd_mul_left_of_dvd fine n) (gap_dvd_units below)
    rw [units_succ] at high
    have none_left := Nat.eq_zero_of_dvd_of_lt apart (by omega)
    omega
  · rw [last]
    exact ⟨_, Nat.le_refl _, units_next_wholeMagnitude⟩

namespace RoundsTo

variable {magnitude n : Nat} (rounds : RoundsTo magnitude n 1)
include rounds

theorem le_of_large (large : 2 * mantissaCount ≤ n) :
    wholeMagnitude + mantissaCount ≤ magnitude := by
  by_contra before
  have next : units (magnitude + 1) ≤ 2 * mantissaCount * unitsPerOne := by
    rw [← units_next_wholeMagnitude]
    exact units_strictMono.monotone (by omega)
  have less := units_strictMono (Nat.lt_add_one magnitude)
  have scaled := Nat.mul_le_mul_right unitsPerOne large
  have high := rounds.high
  rw [Nat.mul_one, Nat.mul_assoc] at high
  omega

theorem units_eq_of_small (small : n ≤ 2 * mantissaCount) (finite : magnitude < infiniteMagnitude) :
    units magnitude = n * unitsPerOne := by
  rcases exists_units_eq small with ⟨other, inside, same⟩
  have rounds_other : RoundsTo other n 1 := .of_eq Nat.one_pos (by rw [Nat.mul_one, same])
  have other_finite : other < infiniteMagnitude := Nat.lt_of_le_of_lt inside (by decide)
  rw [← rounds.nearestMagnitude_eq Nat.one_pos finite,
    rounds_other.nearestMagnitude_eq Nat.one_pos other_finite, same]

theorem dvd_units (finite : magnitude < infiniteMagnitude) : unitsPerOne ∣ units magnitude := by
  rcases Nat.le_total n (2 * mantissaCount) with small | large
  · rw [rounds.units_eq_of_small small finite]
    exact Nat.dvd_mul_left _ _
  · apply dvd_units_of_le
    exact Nat.le_trans (Nat.le_add_right _ _) (rounds.le_of_large large)

end RoundsTo

namespace Double

variable {x : Double} {n : Int}

theorem units_of_value_eq (same : x.value = n) : units x.magnitude = n.natAbs * unitsPerOne := by
  have size : magnitudeValue x.magnitude = n.natAbs := by
    rw [← abs_value, same, Nat.cast_natAbs, Int.cast_abs]
  rw [magnitudeValue, div_eq_iff cast_unitsPerOne_pos.ne'] at size
  exact_mod_cast size

theorem exists_value_eq_iff : (∃ n : Int, x.value = n) ↔ unitsPerOne ∣ units x.magnitude := by
  constructor
  · intro whole
    rcases whole with ⟨n, same⟩
    rw [units_of_value_eq same]
    exact Nat.dvd_mul_left _ _
  · intro whole
    rcases whole with ⟨n, whole⟩
    have size : magnitudeValue x.magnitude = n := by
      rw [magnitudeValue, whole, Nat.cast_mul, mul_div_cancel_left₀ _ cast_unitsPerOne_pos.ne']
    rw [value_eq, size]
    split
    · exact ⟨-n, by push_cast; rfl⟩
    · exact ⟨n, by push_cast; rfl⟩

theorem exists_value_eq (small : n.natAbs ≤ 2 * mantissaCount) :
    ∃ x : Double, x.isFinite ∧ x.value = n := by
  rcases exists_units_eq small with ⟨magnitude, inside, whole⟩
  have finite : magnitude < infiniteMagnitude := Nat.lt_of_le_of_lt inside (by decide)
  have size : magnitudeValue magnitude = n.natAbs := by
    rw [magnitudeValue, whole, Nat.cast_mul, mul_div_cancel_right₀ _ cast_unitsPerOne_pos.ne']
  refine ⟨ofMagnitude (n < 0) magnitude, ?_, ?_⟩
  · exact decide_eq_true ((magnitude_ofMagnitude finite _).symm ▸ finite)
  · rw [value_eq, magnitude_ofMagnitude finite, isNegative_ofMagnitude finite, size,
      Nat.cast_natAbs, Int.cast_abs]
    simp only [decide_eq_true_eq]
    split
    · next negative => rw [abs_of_neg (Int.cast_lt_zero.mpr negative), neg_neg]
    · next other => exact abs_of_nonneg (Int.cast_nonneg (Int.not_lt.mp other))

end Double

end Stencil
