import Stencil.Numeral.Shortest
import Stencil.Proofs.Numeral.Digits
import Stencil.Proofs.Numeral.Whole

namespace Stencil

theorem readsAs_iff (magnitude n : Nat) :
    readsAs magnitude n ↔ RoundsTo magnitude n (10 ^ shortestPlaces) := by
  rw [readsAs, roundsTo_iff, Nat.pow_eq]
  generalize 10 ^ shortestPlaces = scale
  by_cases even : magnitude % 2 = 0
  · simp [even]
  · simp only [even, if_false, imp_false, Bool.and_eq_true, decide_eq_true_eq]
    omega

def stepBelow (magnitude step : Nat) : Nat :=
  units magnitude * Nat.pow 10 shortestPlaces / unitsPerOne / step * step

section

variable {magnitude step n : Nat}

theorem candidate_cases (magnitude step : Nat) :
    candidate magnitude step = none ∧ ¬ readsAs magnitude (stepBelow magnitude step) ∨
      ∃ n, candidate magnitude step = some n ∧ readsAs magnitude n ∧
        (n = stepBelow magnitude step ∨ n = stepBelow magnitude step + step) := by
  simp only [candidate, stepBelow]
  generalize units magnitude * Nat.pow 10 shortestPlaces / unitsPerOne / step * step = below
  generalize unitsPerOne = one
  split
  · next below_reads above_reads =>
      right
      split
      · exact ⟨below, rfl, below_reads, .inl rfl⟩
      · exact ⟨below + step, rfl, above_reads, .inr rfl⟩
  · next below_reads _ => exact .inr ⟨below, rfl, below_reads, .inl rfl⟩
  · next above_reads => exact .inr ⟨below + step, rfl, above_reads, .inr rfl⟩
  · next below_fails _ => exact .inl ⟨rfl, ne_true_of_eq_false below_fails⟩

theorem candidate_eq_some (found : candidate magnitude step = some n) :
    step ∣ n ∧ RoundsTo magnitude n (10 ^ shortestPlaces) := by
  have below_dvd : step ∣ stepBelow magnitude step := Nat.dvd_mul_left _ _
  rw [← readsAs_iff]
  rcases candidate_cases magnitude step with ⟨none, -⟩ | ⟨other, some, reads, place⟩
  · rw [none] at found
    cases found
  · rw [some] at found
    rw [← Option.some.inj found]
    refine ⟨?_, reads⟩
    rcases place with below | above
    · rw [below]
      exact below_dvd
    · rw [above]
      exact Nat.dvd_add below_dvd (Nat.dvd_refl _)

theorem isSome_candidate
    (below : RoundsTo magnitude (stepBelow magnitude step) (10 ^ shortestPlaces)) :
    (candidate magnitude step).isSome := by
  rw [← readsAs_iff] at below
  rcases candidate_cases magnitude step with ⟨-, other⟩ | ⟨n, some, -⟩
  · exact absurd below other
  · exact Option.isSome_of_mem some

end

theorem shortestFrom_eq {magnitude : Nat} (found : (candidate magnitude 1).isSome) (most : Nat) :
    ∃ exponent, candidate magnitude (Nat.pow 10 exponent) = some (shortestFrom magnitude most) ∧
      ∀ other ≤ most, (candidate magnitude (Nat.pow 10 other)).isSome → other ≤ exponent := by
  induction most with
  | zero =>
      rcases Option.isSome_iff_exists.mp found with ⟨n, found⟩
      have first : shortestFrom magnitude 0 = n := by
        rw [shortestFrom, found]
        rfl
      rw [first]
      exact ⟨0, found, fun _ le _ => le⟩
  | succ most ih =>
      rw [shortestFrom]
      cases here : candidate magnitude (Nat.pow 10 (most + 1)) with
      | some n => exact ⟨most + 1, here, fun _ le _ => le⟩
      | none =>
          rcases ih with ⟨exponent, found, greatest⟩
          refine ⟨exponent, found, ?_⟩
          intro other le some_here
          apply greatest other _ some_here
          rcases Nat.lt_or_eq_of_le le with less | same
          · exact Nat.le_of_lt_succ less
          · rw [same, here] at some_here
            cases some_here

section

variable {magnitude : Nat}

theorem isSome_candidate_one (positive : 0 < magnitude) : (candidate magnitude 1).isSome := by
  have fine : 2 * unitsPerOne ≤ 10 ^ shortestPlaces := by decide +kernel
  have one_pos := unitsPerOne_pos
  rcases Nat.exists_eq_add_one_of_ne_zero positive.ne' with ⟨before, rfl⟩
  apply isSome_candidate
  rw [roundsTo_iff, stepBelow, Nat.div_one, Nat.mul_one, Nat.pow_eq, Nat.add_sub_cancel]
  generalize unitsPerOne = one at *
  generalize 10 ^ shortestPlaces = scale at *
  have whole := Nat.div_add_mod' (units (before + 1) * scale) one
  have rest := Nat.mod_lt (units (before + 1) * scale) one_pos
  have gap_scaled : scale ≤ gap before * scale := Nat.le_mul_of_pos_left scale (gap_pos before)
  have last : units (before + 1) * scale = units before * scale + gap before * scale := by
    rw [units_succ, Nat.add_mul]
  have next : units (before + 1) * scale < units (before + 1 + 1) * scale :=
    Nat.mul_lt_mul_of_pos_right (units_strictMono (Nat.lt_add_one _)) (by omega)
  rw [Nat.add_mul, Nat.add_mul, Nat.mul_assoc]
  refine ⟨?_, ?_, ?_, ?_⟩ <;> omega

theorem isSome_candidate_whole (whole : unitsPerOne ∣ units magnitude) :
    (candidate magnitude (Nat.pow 10 shortestPlaces)).isSome := by
  rcases whole with ⟨n, whole⟩
  have scale_pos : 0 < 10 ^ shortestPlaces := Nat.pow_pos (by decide)
  have below : stepBelow magnitude (Nat.pow 10 shortestPlaces) = n * 10 ^ shortestPlaces := by
    rw [stepBelow, whole, Nat.mul_assoc, Nat.mul_div_cancel_left _ unitsPerOne_pos, Nat.pow_eq,
      Nat.mul_div_cancel _ scale_pos]
  apply isSome_candidate
  rw [below]
  apply RoundsTo.of_eq scale_pos
  rw [whole]
  ring

end

/-- The shortest decimal is a candidate of the greatest step that has any, without the zeros at its
end. -/
theorem exists_shortest {magnitude : Nat} (positive : 0 < magnitude) : ∃ exponent n,
    candidate magnitude (Nat.pow 10 exponent) = some n ∧
      shortest magnitude = (Decimal.ofScaled n shortestPlaces).trimmed ∧
      ∀ other ≤ 309 + shortestPlaces,
        (candidate magnitude (Nat.pow 10 other)).isSome → other ≤ exponent := by
  rcases shortestFrom_eq (isSome_candidate_one positive) (309 + shortestPlaces) with
    ⟨exponent, found, greatest⟩
  exact ⟨exponent, _, found, if_neg positive.ne', greatest⟩

theorem shortest_zero : shortest 0 = ⟨['0'], []⟩ := rfl

section

variable (magnitude : Nat)

theorem isPlain_shortest : (shortest magnitude).IsPlain := by
  rw [shortest]
  split
  · exact ⟨isNumeral_digits 0, nofun⟩
  · exact (Decimal.isPlain_ofScaled _ _).trimmed

theorem roundsTo_shortest :
    RoundsTo magnitude (shortest magnitude).unscaled
      (10 ^ (shortest magnitude).fraction.length) := by
  rcases Nat.eq_zero_or_pos magnitude with rfl | positive
  · have zero : (⟨['0'], []⟩ : Decimal).unscaled = 0 := rfl
    apply RoundsTo.of_eq (Nat.pow_pos (by decide))
    rw [shortest_zero, zero, units_zero, Nat.zero_mul, Nat.zero_mul]
  · rcases exists_shortest positive with ⟨exponent, n, found, result, -⟩
    have rounds := (candidate_eq_some found).2
    rcases Decimal.exists_unscaled_trimmed n shortestPlaces with ⟨count, length, unscaled⟩
    rw [← result] at length unscaled
    rw [unscaled, length, Nat.pow_add] at rounds
    exact (RoundsTo.scale_iff (Nat.pow_pos (by decide))).mp rounds

end

variable {magnitude : Nat}

theorem isZero_shortest_iff : (shortest magnitude).isZero ↔ magnitude = 0 := by
  rw [Decimal.isZero_iff (isPlain_shortest magnitude)]
  constructor
  · intro zero
    have rounds := roundsTo_shortest magnitude
    rw [zero] at rounds
    exact rounds.eq_zero (Nat.pow_pos (by decide))
  · intro zero
    rw [zero, shortest_zero]
    rfl

theorem exists_shortest_whole (whole : unitsPerOne ∣ units magnitude) :
    ∃ n, shortest magnitude = ⟨digits n, []⟩ ∧ RoundsTo magnitude n 1 := by
  have result : ∃ n, shortest magnitude = ⟨digits n, []⟩ := by
    rcases Nat.eq_zero_or_pos magnitude with rfl | positive
    · exact ⟨0, shortest_zero⟩
    · rcases exists_shortest positive with ⟨exponent, n, found, result, greatest⟩
      have coarse : shortestPlaces ≤ exponent :=
        greatest shortestPlaces (by decide) (isSome_candidate_whole whole)
      rcases Nat.dvd_trans (Nat.pow_dvd_pow 10 coarse) (candidate_eq_some found).1 with ⟨k, split⟩
      rw [Nat.mul_comm] at split
      refine ⟨k, ?_⟩
      rw [result, split, Decimal.ofScaled_mul, Decimal.trimmed, dropZerosEnd_zeros]
  rcases result with ⟨n, result⟩
  have rounds := roundsTo_shortest magnitude
  rw [result, Decimal.unscaled_digits] at rounds
  exact ⟨n, result, rounds⟩

/-- No other double has a shortest decimal without a fraction. -/
theorem fraction_shortest_eq_nil_iff (finite : magnitude < infiniteMagnitude) :
    (shortest magnitude).fraction = [] ↔ unitsPerOne ∣ units magnitude := by
  constructor
  · intro none_left
    have rounds := roundsTo_shortest magnitude
    rw [none_left] at rounds
    exact rounds.dvd_units finite
  · intro whole
    rcases exists_shortest_whole whole with ⟨n, result, -⟩
    rw [result]

theorem shortest_eq_digits {n : Nat} (small : n ≤ 2 * mantissaCount)
    (whole : units magnitude = n * unitsPerOne) : shortest magnitude = ⟨digits n, []⟩ := by
  rcases Nat.lt_or_eq_of_le small with less | last
  · have inside : magnitude < wholeMagnitude + mantissaCount := by
      rw [← units_strictMono.lt_iff_lt, units_next_wholeMagnitude, whole]
      exact Nat.mul_lt_mul_of_pos_right less unitsPerOne_pos
    have finite : magnitude < infiniteMagnitude := Nat.lt_trans inside (by decide)
    rcases exists_shortest_whole (whole ▸ Nat.dvd_mul_left _ n) with ⟨k, result, rounds⟩
    have short : k ≤ 2 * mantissaCount := by
      by_contra large
      exact absurd (rounds.le_of_large (Nat.le_of_not_le large)) (Nat.not_le_of_lt inside)
    have same := rounds.units_eq_of_small short finite
    rw [whole] at same
    rw [result, Nat.eq_of_mul_eq_mul_right unitsPerOne_pos same]
  · -- The number after this one has no double of its own and is rounded to it too.
    rw [last, ← units_next_wholeMagnitude] at whole
    rw [units_strictMono.injective whole, last]
    decide +kernel

end Stencil
