import Mathlib.Tactic.MkIffOfInductiveProp
import Stencil.Proofs.Numeral.Units

/-!
Rounding to doubles. A number is rounded to the magnitude between whose middles to its neighbours it
lies; a middle belongs to the even one. So what is read as a magnitude, and what is nearest to it,
are the same.
-/

namespace Stencil

/-- The number `n / d` lies between the middles from a magnitude to its neighbours, and in a middle
only if the magnitude is even. -/
@[mk_iff]
structure RoundsTo (magnitude n d : Nat) : Prop where
  low : (units (magnitude - 1) + units magnitude) * d ≤ 2 * n * unitsPerOne
  high : 2 * n * unitsPerOne ≤ (units magnitude + units (magnitude + 1)) * d
  lowEven : (units (magnitude - 1) + units magnitude) * d = 2 * n * unitsPerOne →
    magnitude % 2 = 0
  highEven : 2 * n * unitsPerOne = (units magnitude + units (magnitude + 1)) * d →
    magnitude % 2 = 0

namespace RoundsTo

variable {magnitude n d : Nat}

theorem scale_iff {factor : Nat} (positive : 0 < factor) :
    RoundsTo magnitude (n * factor) (d * factor) ↔ RoundsTo magnitude n d := by
  have number : 2 * n * factor * unitsPerOne = 2 * n * unitsPerOne * factor :=
    Nat.mul_right_comm _ _ _
  simp only [roundsTo_iff, ← Nat.mul_assoc, number, Nat.mul_le_mul_right_iff positive,
    Nat.mul_left_inj positive.ne']

section

variable (positive : 0 < d)
include positive

theorem of_le (low : units magnitude * d ≤ n * unitsPerOne)
    (high : 2 * n * unitsPerOne ≤ (units magnitude + units (magnitude + 1)) * d)
    (even : 2 * n * unitsPerOne = (units magnitude + units (magnitude + 1)) * d →
      magnitude % 2 = 0) : RoundsTo magnitude n d := by
  have number : 2 * n * unitsPerOne = 2 * (n * unitsPerOne) := Nat.mul_assoc _ _ _
  have before : units (magnitude - 1) * d ≤ units magnitude * d :=
    Nat.mul_le_mul_right d (units_strictMono.monotone (Nat.sub_le _ _))
  refine ⟨?_, high, ?_, even⟩
  · rw [Nat.add_mul]
    omega
  · intro tie
    rw [Nat.add_mul] at tie
    cases magnitude with
    | zero => rfl
    | succ magnitude =>
        have apart : units magnitude * d < units (magnitude + 1) * d :=
          Nat.mul_lt_mul_of_pos_right (units_strictMono (Nat.lt_succ_self _)) positive
        rw [Nat.add_sub_cancel] at tie
        omega

theorem of_ge (low : (units magnitude + units (magnitude + 1)) * d ≤ 2 * n * unitsPerOne)
    (high : n * unitsPerOne ≤ units (magnitude + 1) * d)
    (even : (units magnitude + units (magnitude + 1)) * d = 2 * n * unitsPerOne →
      (magnitude + 1) % 2 = 0) : RoundsTo (magnitude + 1) n d := by
  have number : 2 * n * unitsPerOne = 2 * (n * unitsPerOne) := Nat.mul_assoc _ _ _
  have behind : units (magnitude + 1) * d < units (magnitude + 1 + 1) * d :=
    Nat.mul_lt_mul_of_pos_right (units_strictMono (Nat.lt_succ_self _)) positive
  have below : 2 * n * unitsPerOne <
      (units (magnitude + 1) + units (magnitude + 1 + 1)) * d := by
    rw [Nat.add_mul]
    omega
  exact ⟨low, Nat.le_of_lt below, even, fun tie => absurd tie (Nat.ne_of_lt below)⟩

theorem of_eq (equal : units magnitude * d = n * unitsPerOne) : RoundsTo magnitude n d := by
  have behind : units magnitude * d < units (magnitude + 1) * d :=
    Nat.mul_lt_mul_of_pos_right (units_strictMono (Nat.lt_succ_self _)) positive
  have below : 2 * n * unitsPerOne < (units magnitude + units (magnitude + 1)) * d := by
    rw [Nat.add_mul, equal, Nat.mul_assoc]
    omega
  exact of_le positive (Nat.le_of_eq equal) (Nat.le_of_lt below)
    fun tie => absurd tie (Nat.ne_of_lt below)

end

theorem eq_zero (rounds : RoundsTo magnitude 0 d) (positive : 0 < d) : magnitude = 0 := by
  have low := rounds.low
  rw [Nat.mul_zero, Nat.zero_mul, Nat.le_zero, Nat.mul_eq_zero] at low
  apply units_strictMono.injective
  rw [units_zero]
  omega

theorem lt_pow {places : Nat} (rounds : RoundsTo magnitude n (10 ^ places))
    (finite : magnitude < infiniteMagnitude) : n < 10 ^ (310 + places) := by
  -- The power is taken in two steps, each short enough to be evaluated.
  have bound : units infiniteMagnitude < (10 ^ 155) ^ 2 * unitsPerOne := by decide +kernel
  have power (half : Nat) : 10 ^ (half * 2 + places) = (10 ^ half) ^ 2 * 10 ^ places := by
    rw [Nat.pow_add, Nat.pow_mul]
  have own := units_strictMono finite
  have next : units (magnitude + 1) ≤ units infiniteMagnitude := units_strictMono.monotone finite
  have high := rounds.high
  have less : 2 * n * unitsPerOne < 2 * ((10 ^ 155) ^ 2 * 10 ^ places) * unitsPerOne := by
    generalize unitsPerOne = one at *
    generalize (10 ^ 155) ^ 2 = limit at *
    calc
      2 * n * one ≤ (units magnitude + units (magnitude + 1)) * 10 ^ places := high
      _ < 2 * (limit * one) * 10 ^ places :=
        Nat.mul_lt_mul_of_pos_right (by omega) (Nat.pow_pos (by decide))
      _ = 2 * (limit * 10 ^ places) * one := by ring
  have halved := Nat.lt_of_mul_lt_mul_right less
  rw [← power] at halved
  exact Nat.lt_of_mul_lt_mul_left halved

theorem exists_neighbours (n : Nat) (positive : 0 < d) :
    ∃ below, units below * d ≤ n * unitsPerOne ∧ n * unitsPerOne < units (below + 1) * d ∧
      nearestMagnitude n d =
        min (if 2 * n * unitsPerOne < (units below + units (below + 1)) * d then below
          else if (units below + units (below + 1)) * d < 2 * n * unitsPerOne then below + 1
          else below + below % 2) infiniteMagnitude := by
  rcases floorMagnitude_bounds (n * unitsPerOne / d) with ⟨low, high⟩
  rw [Nat.le_div_iff_mul_le positive] at low
  rw [Nat.div_lt_iff_lt_mul positive] at high
  exact ⟨_, low, high, rfl⟩

/-- Of all magnitudes the nearest one is found. -/
theorem nearestMagnitude_eq (rounds : RoundsTo magnitude n d) (positive : 0 < d)
    (finite : magnitude < infiniteMagnitude) : nearestMagnitude n d = magnitude := by
  rcases exists_neighbours n positive with ⟨below, low, high, found⟩
  rcases rounds with ⟨from_low, to_high, low_even, high_even⟩
  have number : 2 * n * unitsPerOne = 2 * (n * unitsPerOne) := Nat.mul_assoc _ _ _
  have step : units magnitude * d < units (magnitude + 1) * d :=
    Nat.mul_lt_mul_of_pos_right (units_strictMono (Nat.lt_succ_self _)) positive
  have le_mul {a b : Nat} (le : a ≤ b) : units a * d ≤ units b * d :=
    Nat.mul_le_mul_right d (units_strictMono.monotone le)
  rw [Nat.add_mul] at from_low to_high low_even high_even found
  have not_above : below ≤ magnitude := by
    by_contra above
    have beyond := le_mul (show magnitude + 1 ≤ below by omega)
    omega
  have not_below : magnitude ≤ below + 1 := by
    by_contra beneath
    have before := le_mul (show below + 1 ≤ magnitude - 1 by omega)
    have growth := le_mul (Nat.sub_le magnitude 1)
    omega
  have nearer : (if 2 * n * unitsPerOne < units below * d + units (below + 1) * d then below
      else if units below * d + units (below + 1) * d < 2 * n * unitsPerOne then below + 1
      else below + below % 2) = magnitude := by
    rcases Nat.lt_or_eq_of_le not_above with next | same
    · have next : magnitude = below + 1 := by omega
      subst next
      rw [Nat.add_sub_cancel] at from_low low_even
      rw [if_neg (by omega)]
      split <;> omega
    · subst same
      split
      · rfl
      · rw [if_neg (by omega)]
        omega
  rw [found, nearer]
  exact Nat.min_eq_left (Nat.le_of_lt finite)

theorem of_nearestMagnitude (positive : 0 < d)
    (finite : nearestMagnitude n d < infiniteMagnitude) : RoundsTo (nearestMagnitude n d) n d := by
  rcases exists_neighbours n positive with ⟨below, low, high, found⟩
  rw [found] at finite ⊢
  have inside := (min_lt_iff.mp finite).resolve_right (Nat.lt_irrefl _)
  rw [Nat.min_eq_left (Nat.le_of_lt inside)]
  split
  · next less =>
      exact of_le positive low (Nat.le_of_lt less) fun tie => absurd tie (Nat.ne_of_lt less)
  · next not_less =>
      split
      · next greater =>
          exact of_ge positive (Nat.le_of_lt greater) (Nat.le_of_lt high)
            fun tie => absurd tie (Nat.ne_of_lt greater)
      · next not_greater =>
          have tie := Nat.le_antisymm (Nat.le_of_not_lt not_greater) (Nat.le_of_not_lt not_less)
          rcases Nat.mod_two_eq_zero_or_one below with even | odd
          · rw [even]
            exact of_le positive low (Nat.le_of_eq tie) fun _ => even
          · rw [odd]
            exact of_ge positive (Nat.le_of_eq tie.symm) (Nat.le_of_lt high) fun _ => by omega

end RoundsTo

theorem last_middle : magnitudeValue (infiniteMagnitude - 1) + magnitudeValue infiniteMagnitude =
    2 * (2 ^ 1024 - 2 ^ 970) := by
  -- The powers are taken in two steps, each short enough to be evaluated.
  have count : units (infiniteMagnitude - 1) + units infiniteMagnitude +
      2 * (2 ^ 194) ^ 5 * unitsPerOne = 2 * (2 ^ 128) ^ 8 * unitsPerOne := by decide +kernel
  have small : (2 : ℚ) ^ 970 = (2 ^ 194) ^ 5 := pow_mul 2 194 5
  have large : (2 : ℚ) ^ 1024 = (2 ^ 128) ^ 8 := pow_mul 2 128 8
  have counted := congrArg (Nat.cast : ℕ → ℚ) count
  push_cast at counted
  rw [magnitudeValue, magnitudeValue, ← add_div, div_eq_iff cast_unitsPerOne_pos.ne', small, large]
  linarith

section

variable {a b q : ℚ} (less : a < b)
include less

theorem abs_sub_le_iff_middle_le : |q - b| ≤ |q - a| ↔ a + b ≤ 2 * q := by
  have factors : (q - a) ^ 2 - (q - b) ^ 2 = (b - a) * (2 * q - (a + b)) := by ring
  rw [← sq_le_sq, ← sub_nonneg, factors, mul_nonneg_iff_of_pos_left (sub_pos.mpr less), sub_nonneg]

theorem abs_sub_le_iff_le_middle : |q - a| ≤ |q - b| ↔ 2 * q ≤ a + b := by
  have factors : (q - b) ^ 2 - (q - a) ^ 2 = (b - a) * (a + b - 2 * q) := by ring
  rw [← sq_le_sq, ← sub_nonneg, factors, mul_nonneg_iff_of_pos_left (sub_pos.mpr less), sub_nonneg]

theorem abs_sub_eq_iff_middle : |q - a| = |q - b| ↔ 2 * q = a + b := by
  rw [le_antisymm_iff, abs_sub_le_iff_le_middle less, abs_sub_le_iff_middle_le less,
    ← le_antisymm_iff]

end

section

variable {n d : Nat} (positive : 0 < d) (a b : Nat)
include positive

theorem middle_le_iff : magnitudeValue a + magnitudeValue b ≤ 2 * (n / d : ℚ) ↔
    (units a + units b) * d ≤ 2 * n * unitsPerOne := by
  have scale : (0 : ℚ) < d := Nat.cast_pos.mpr positive
  rw [magnitudeValue, magnitudeValue, ← add_div, div_le_iff₀ cast_unitsPerOne_pos,
    ← mul_div_assoc, div_mul_eq_mul_div, le_div_iff₀ scale]
  exact_mod_cast Iff.rfl

theorem le_middle_iff : 2 * (n / d : ℚ) ≤ magnitudeValue a + magnitudeValue b ↔
    2 * n * unitsPerOne ≤ (units a + units b) * d := by
  have scale : (0 : ℚ) < d := Nat.cast_pos.mpr positive
  rw [magnitudeValue, magnitudeValue, ← add_div, le_div_iff₀ cast_unitsPerOne_pos,
    ← mul_div_assoc, div_mul_eq_mul_div, div_le_iff₀ scale]
  exact_mod_cast Iff.rfl

/-- The middles of the numbers are those of the units. -/
theorem roundsTo_iff_middles {magnitude : Nat} : RoundsTo magnitude n d ↔
    (magnitudeValue (magnitude - 1) + magnitudeValue magnitude ≤ 2 * (n / d : ℚ)) ∧
      2 * (n / d : ℚ) ≤ magnitudeValue magnitude + magnitudeValue (magnitude + 1) ∧
      (magnitudeValue (magnitude - 1) + magnitudeValue magnitude = 2 * (n / d : ℚ) →
        magnitude % 2 = 0) ∧
      (2 * (n / d : ℚ) = magnitudeValue magnitude + magnitudeValue (magnitude + 1) →
        magnitude % 2 = 0) := by
  simp only [roundsTo_iff, le_antisymm_iff, middle_le_iff positive, le_middle_iff positive]

end

namespace RoundsTo

variable {magnitude n d : Nat} (rounds : RoundsTo magnitude n d) (positive : 0 < d)
include rounds positive

theorem nearer (other : Nat) :
    |(n / d : ℚ) - magnitudeValue magnitude| ≤ |(n / d : ℚ) - magnitudeValue other| ∧
      (other ≠ magnitude →
        |(n / d : ℚ) - magnitudeValue other| = |(n / d : ℚ) - magnitudeValue magnitude| →
          magnitude % 2 = 0) := by
  rcases (roundsTo_iff_middles positive).mp rounds with ⟨low, high, low_even, high_even⟩
  generalize (n / d : ℚ) = q at *
  rcases Nat.lt_trichotomy other magnitude with before | rfl | behind
  · have order : magnitudeValue other ≤ magnitudeValue (magnitude - 1) :=
      magnitudeValue_strictMono.monotone (by omega)
    have apart := magnitudeValue_strictMono before
    rw [abs_sub_le_iff_middle_le apart, abs_sub_eq_iff_middle apart]
    exact ⟨by linarith, fun _ equal => low_even (by linarith)⟩
  · exact ⟨le_refl _, fun apart => absurd rfl apart⟩
  · have order : magnitudeValue (magnitude + 1) ≤ magnitudeValue other :=
      magnitudeValue_strictMono.monotone behind
    have apart := magnitudeValue_strictMono behind
    rw [abs_sub_le_iff_le_middle apart, eq_comm, abs_sub_eq_iff_middle apart]
    exact ⟨by linarith, fun _ equal => high_even (by linarith)⟩

theorem nearer_signed (s : ℚ) (other : Nat) (size : |s| = magnitudeValue other) :
    |(n / d : ℚ) - magnitudeValue magnitude| ≤ |(n / d : ℚ) - s| ∧
      (s ≠ magnitudeValue magnitude →
        |(n / d : ℚ) - s| = |(n / d : ℚ) - magnitudeValue magnitude| → magnitude % 2 = 0) := by
  rcases abs_choice s with same | negated
  · rw [same] at size
    subst size
    rcases rounds.nearer positive other with ⟨near, even⟩
    exact ⟨near, fun apart => even fun equal => apart (congrArg magnitudeValue equal)⟩
  · -- A negative number is farther than zero.
    rcases rounds.nearer positive 0 with ⟨near, even⟩
    rw [magnitudeValue_zero, sub_zero] at near even
    have number : (0 : ℚ) ≤ n / d := div_nonneg (Nat.cast_nonneg _) (Nat.cast_nonneg _)
    have below : s ≤ 0 := by
      rw [← abs_eq_neg_self]
      exact negated
    have far : |(n / d : ℚ) - s| = n / d - s := abs_of_nonneg (by linarith)
    rw [abs_of_nonneg number] at near even
    rw [far]
    constructor
    · linarith
    · intro apart equal
      have zero : s = 0 := by linarith
      rw [zero] at apart equal
      rw [sub_zero] at equal
      apply even _ equal
      intro none_left
      rw [← none_left, magnitudeValue_zero] at apart
      exact apart rfl

theorem inside (finite : magnitude < infiniteMagnitude) :
    (n / d : ℚ) < 2 ^ 1024 - 2 ^ 970 := by
  rcases (roundsTo_iff_middles positive).mp rounds with ⟨-, high, -, high_even⟩
  have greatest := last_middle
  generalize (2 ^ 1024 - 2 ^ 970 : ℚ) = limit at *
  rcases Nat.lt_or_eq_of_le (Nat.le_sub_one_of_lt finite) with less | last
  · have first : magnitudeValue magnitude < magnitudeValue (infiniteMagnitude - 1) :=
      magnitudeValue_strictMono less
    have second : magnitudeValue (magnitude + 1) ≤ magnitudeValue infiniteMagnitude :=
      magnitudeValue_strictMono.monotone finite
    linarith
  · -- The greatest double is odd, so the middle beyond it does not belong to it.
    have odd : magnitude % 2 ≠ 0 := by
      rw [last]
      decide
    have apart : 2 * (n / d : ℚ) ≠ magnitudeValue magnitude + magnitudeValue (magnitude + 1) :=
      fun tie => odd (high_even tie)
    have strict := lt_of_le_of_ne high apart
    have next : magnitude + 1 = infiniteMagnitude := by
      rw [last]
      rfl
    rw [next, last, greatest] at strict
    linarith

end RoundsTo

theorem nearestMagnitude_lt_iff {n d : Nat} (positive : 0 < d) :
    nearestMagnitude n d < infiniteMagnitude ↔ (n / d : ℚ) < 2 ^ 1024 - 2 ^ 970 := by
  constructor
  · intro finite
    exact (RoundsTo.of_nearestMagnitude positive finite).inside positive finite
  · intro inside
    by_contra infinite
    have beyond : (units (infiniteMagnitude - 1) + units infiniteMagnitude) * d ≤
        2 * n * unitsPerOne := by
      rcases RoundsTo.exists_neighbours n positive with ⟨below, low, -, found⟩
      have number : 2 * n * unitsPerOne = 2 * (n * unitsPerOne) := Nat.mul_assoc _ _ _
      have reached : infiniteMagnitude ≤ below ∨ (below = infiniteMagnitude - 1 ∧
          (units below + units (below + 1)) * d ≤ 2 * n * unitsPerOne) := by
        rw [found] at infinite
        split at infinite
        · omega
        · split at infinite <;> omega
      rcases reached with past | ⟨rfl, middle⟩
      · have step : units (infiniteMagnitude - 1) * d ≤ units infiniteMagnitude * d :=
          Nat.mul_le_mul_right d (units_strictMono.monotone (Nat.sub_le _ _))
        have upper : units infiniteMagnitude * d ≤ units below * d :=
          Nat.mul_le_mul_right d (units_strictMono.monotone past)
        rw [Nat.add_mul]
        omega
      · have next : infiniteMagnitude - 1 + 1 = infiniteMagnitude := rfl
        rwa [next] at middle
    have middle := (middle_le_iff positive _ _).mpr beyond
    rw [last_middle] at middle
    generalize (2 ^ 1024 - 2 ^ 970 : ℚ) = limit at *
    linarith

namespace Double

variable {x : Double} {n d : Nat}

theorem even_mantissa_iff : Even x.mantissa ↔ x.magnitude % 2 = 0 := by
  have split := x.magnitude_eq
  simp only [mantissaCount] at split
  rw [Nat.even_iff]
  omega

theorem signed_value (x : Double) :
    (if x.isNegative then -x.value else x.value) = magnitudeValue x.magnitude := by
  rw [value_eq]
  split
  · exact neg_neg _
  · rfl

theorem isNearest_of_roundsTo (finite : x.isFinite) (rounds : RoundsTo x.magnitude n d)
    (positive : 0 < d) : x.IsNearest (if x.isNegative then -(n / d : ℚ) else n / d) := by
  have number : (0 : ℚ) ≤ n / d := div_nonneg (Nat.cast_nonneg _) (Nat.cast_nonneg _)
  have nearer (y : Double) :=
    rounds.nearer_signed positive (if x.isNegative then -y.value else y.value) y.magnitude
      (by rw [abs_signed, abs_value])
  refine ⟨finite, ?_, ?_, ?_⟩
  · rw [abs_signed, abs_of_nonneg number]
    exact rounds.inside positive (of_decide_eq_true finite)
  · intro y _
    rw [abs_signed_sub, abs_signed_sub, signed_value]
    exact (nearer y).1
  · intro y _ apart equal
    rw [abs_signed_sub, abs_signed_sub, signed_value] at equal
    refine even_mantissa_iff.mpr ((nearer y).2 ?_ equal)
    intro same
    rw [← signed_value] at same
    split at same
    · exact apart (neg_inj.mp same)
    · exact apart same

section

variable {q : ℚ} (nearest : x.IsNearest (if x.isNegative then -q else q))
include nearest

theorem IsNearest.nearer {other : Nat} (finite : other < infiniteMagnitude) :
    |q - magnitudeValue x.magnitude| ≤ |q - magnitudeValue other| ∧
      (other ≠ x.magnitude → |q - magnitudeValue other| = |q - magnitudeValue x.magnitude| →
        x.magnitude % 2 = 0) := by
  have distance {y : Double} (sign : y.isNegative = x.isNegative) :
      |(if x.isNegative then -q else q) - y.value| = |q - magnitudeValue y.magnitude| := by
    rw [abs_signed_sub, ← sign, signed_value]
  have own := distance (y := x) rfl
  have same := distance (isNegative_ofMagnitude finite x.isNegative)
  have shown : (ofMagnitude x.isNegative other).isFinite :=
    decide_eq_true ((magnitude_ofMagnitude finite _).symm ▸ finite)
  have near := nearest.near _ shown
  have even := nearest.even _ shown
  rw [own, same, magnitude_ofMagnitude finite] at near even
  refine ⟨near, ?_⟩
  intro apart equal
  apply even_mantissa_iff.mp
  apply even _ equal
  intro same_value
  have size := congrArg abs same_value
  rw [abs_value, abs_value, magnitude_ofMagnitude finite] at size
  exact apart (magnitudeValue_strictMono.injective size)

variable (nonneg : 0 ≤ q)
include nonneg

theorem IsNearest.low_middle :
    magnitudeValue (x.magnitude - 1) + magnitudeValue x.magnitude ≤ 2 * q ∧
      (magnitudeValue (x.magnitude - 1) + magnitudeValue x.magnitude = 2 * q →
        x.magnitude % 2 = 0) := by
  have finite : x.magnitude < infiniteMagnitude := of_decide_eq_true nearest.finite
  have nearer {other : Nat} (other_finite : other < infiniteMagnitude) :=
    nearest.nearer other_finite
  generalize x.magnitude = magnitude at *
  cases magnitude with
  | zero =>
      rw [magnitudeValue_zero]
      exact ⟨by linarith, fun _ => rfl⟩
  | succ before =>
      have apart := magnitudeValue_strictMono (Nat.lt_succ_self before)
      rcases nearer (Nat.lt_of_succ_lt finite) with ⟨near, even⟩
      rw [abs_sub_le_iff_middle_le apart] at near
      rw [abs_sub_eq_iff_middle apart] at even
      exact ⟨near, fun tie => even (Nat.ne_of_lt (Nat.lt_succ_self _)) tie.symm⟩

theorem IsNearest.high_middle :
    2 * q ≤ magnitudeValue x.magnitude + magnitudeValue (x.magnitude + 1) ∧
      (2 * q = magnitudeValue x.magnitude + magnitudeValue (x.magnitude + 1) →
        x.magnitude % 2 = 0) := by
  have finite : x.magnitude < infiniteMagnitude := of_decide_eq_true nearest.finite
  rcases Nat.lt_or_eq_of_le (Nat.succ_le_of_lt finite) with next_finite | last
  · have apart := magnitudeValue_strictMono (Nat.lt_succ_self x.magnitude)
    rcases nearest.nearer next_finite with ⟨near, even⟩
    rw [abs_sub_le_iff_le_middle apart] at near
    rw [eq_comm, abs_sub_eq_iff_middle apart] at even
    exact ⟨near, even (Nat.ne_of_gt (Nat.lt_succ_self _))⟩
  · -- Behind the greatest double the bound of the finite numbers is the middle.
    have inside := nearest.inside
    have greatest := last_middle
    rw [abs_signed, abs_of_nonneg nonneg] at inside
    rw [← last, Nat.succ_sub_one] at greatest
    generalize (2 ^ 1024 - 2 ^ 970 : ℚ) = limit at inside greatest
    have less : 2 * q < magnitudeValue x.magnitude + magnitudeValue (x.magnitude + 1) := by
      rw [greatest]
      linarith
    exact ⟨le_of_lt less, fun tie => absurd tie (ne_of_lt less)⟩

end

theorem IsNearest.roundsTo (nearest : x.IsNearest (if x.isNegative then -(n / d : ℚ) else n / d))
    (positive : 0 < d) : RoundsTo x.magnitude n d := by
  have number : (0 : ℚ) ≤ n / d := div_nonneg (Nat.cast_nonneg _) (Nat.cast_nonneg _)
  rcases nearest.low_middle number with ⟨low, low_even⟩
  rcases nearest.high_middle number with ⟨high, high_even⟩
  exact (roundsTo_iff_middles positive).mpr ⟨low, high, low_even, high_even⟩

/-- A double is the nearest to just the numbers between its middles. -/
theorem isNearest_iff_roundsTo (positive : 0 < d) :
    x.IsNearest (if x.isNegative then -(n / d : ℚ) else n / d) ↔
      x.isFinite ∧ RoundsTo x.magnitude n d := by
  constructor
  · intro nearest
    exact ⟨nearest.finite, nearest.roundsTo positive⟩
  · intro inside
    exact isNearest_of_roundsTo inside.1 inside.2 positive

end Double

end Stencil
