import Stencil.Proofs.Numeral.Digits
import Stencil.Proofs.Numeral.Units
import Stencil.Proofs.Refusal

namespace Stencil

section

variable (n d : Nat) (positive : 0 < d)
include positive

theorem even_roundDiv_of_tie
    (tie : 2 * n = (2 * roundDiv n d + 1) * d ∨ 2 * roundDiv n d * d = 2 * n + d) :
    Even (roundDiv n d) := by
  have whole := Nat.div_add_mod n d
  have rest := Nat.zero_le (n % d)
  by_cases less : 2 * (n % d) < d
  · have down : roundDiv n d = n / d := if_pos less
    rw [down] at tie
    rcases tie with tie | tie <;> linarith
  by_cases more : d < 2 * (n % d)
  · have up : roundDiv n d = n / d + 1 := by rw [roundDiv, if_neg less, if_pos more]
    rw [up] at tie
    have small := Nat.mod_lt n positive
    rcases tie with tie | tie <;> linarith
  · have even : roundDiv n d = n / d + n / d % 2 := by rw [roundDiv, if_neg less, if_neg more]
    rw [even, Nat.even_iff]
    omega

theorem isRounded_roundDiv : IsRounded (n / d : ℚ) (roundDiv n d) := by
  have scale : (0 : ℚ) < d := Nat.cast_pos.mpr positive
  rcases roundDiv_near n d positive with ⟨below, above⟩
  have below : (2 * n : ℚ) ≤ (2 * roundDiv n d + 1) * d := by exact_mod_cast below
  have above : (2 * roundDiv n d * d : ℚ) ≤ 2 * n + d := by exact_mod_cast above
  refine ⟨?_, ?_⟩
  · rw [abs_sub_le_iff]
    constructor
    · rw [sub_le_iff_le_add, div_le_iff₀ scale]
      linarith
    · rw [sub_le_iff_le_add, ← sub_le_iff_le_add', le_div_iff₀ scale]
      linarith
  · intro tie
    apply even_roundDiv_of_tie n d positive
    rcases (abs_eq (by norm_num)).mp tie with up | down
    · left
      rw [sub_eq_iff_eq_add, div_eq_iff scale.ne'] at up
      have exact_tie : (2 * n : ℚ) = (2 * roundDiv n d + 1) * d := by linarith
      exact_mod_cast exact_tie
    · right
      rw [sub_eq_iff_eq_add, div_eq_iff scale.ne'] at down
      have exact_tie : (2 * roundDiv n d * d : ℚ) = 2 * n + d := by linarith
      exact_mod_cast exact_tie

end

namespace Emission

theorem collect_of_trace {emission : Emission FormatError} {text : String}
    (written : emission.trace = (text, .ok ())) : emission.collect = .ok text := by
  rw [collect_eq_trace, written]
  rfl

theorem trace_writeMinus (negative : Bool) (symbols : Symbols) :
    (writeMinus negative symbols).trace = (if negative then symbols.minus else "", .ok ()) := by
  cases negative <;> simp [writeMinus, trace]

theorem trace_writeDecimal (symbols : Symbols) (groups : Bool) (decimal : Decimal) :
    (writeDecimal symbols groups decimal).trace =
      (String.ofList (if groups then grouped symbols.separator.toList decimal.integral
          else decimal.integral) ++
        (if decimal.fraction.isEmpty then "" else symbols.point ++ String.ofList decimal.fraction),
        .ok ()) := by
  rw [writeDecimal]
  cases decimal.fraction.isEmpty <;> simp [trace]

theorem trace_whole (symbols : Symbols) (negative : Bool) (decimal : Decimal) :
    trace (writeMinus negative symbols ++ writeDecimal symbols false decimal) =
      (symbols.layOut negative [decimal.integral] decimal.fraction, .ok ()) := by
  rw [trace_append, trace_writeMinus, trace_writeDecimal]
  simp [Symbols.layOut, String.append_assoc]

theorem exists_splits_trace (symbols : Symbols) (negative groups : Bool) {decimal : Decimal}
    (plain : decimal.IsPlain) :
    ∃ parts, Splits groups decimal.integral parts ∧
      trace (writeMinus negative symbols ++ writeDecimal symbols groups decimal) =
        (symbols.layOut negative parts decimal.fraction, .ok ()) := by
  have present : decimal.integral ≠ [] := by
    intro empty
    have digits := plain.integral.digits
    rw [empty] at digits
    cases digits
  have join (parts : List (List Char)) :
      String.ofList (symbols.separator.toList.intercalate parts) =
        symbols.separator.intercalate (parts.map String.ofList) := by
    rw [← String.toList_inj, String.toList_ofList, String.toList_intercalate, List.map_map]
    simp
  cases groups with
  | false => exact ⟨_, .whole decimal.integral, trace_whole symbols negative decimal⟩
  | true =>
      rcases exists_splits_grouped symbols.separator.toList present with ⟨parts, split, same⟩
      refine ⟨parts, split, ?_⟩
      rw [trace_append, trace_writeMinus, trace_writeDecimal]
      simp only [Symbols.layOut, same, join, if_true, String.append_assoc]

end Emission

namespace Specifier

theorem read_of_isSpecifier {letters : List Char} (default : Nat) {make : Nat → Specifier}
    (same : ∀ letter ∈ letters, ∀ text, read (letter :: text) = (readCount default text).map make)
    {count : Nat} {format : String} (asked : IsSpecifier letters count format) :
    read format.toList = some (make count) := by
  rcases asked with ⟨letter, text, split, known, decimal, short, value⟩
  rcases isDigits_iff.mp decimal with ⟨present, digits⟩
  have filled : text.isEmpty = false := List.isEmpty_eq_false_iff.mpr present
  have plain : text.all Char.isDigit = true := List.all_eq_true.mpr digits
  have found : readCount default text = some count := by
    simp [readCount, filled, plain, short, value]
  rw [split, same letter known, found]
  rfl

end Specifier

def placesLetters (groups : Bool) : List Char := if groups then ['N', 'n'] else ['F', 'f']

theorem Specifier.read_of_places {groups : Bool} {places : Nat} {format : String}
    (asked : IsSpecifier (placesLetters groups) places format) :
    read format.toList = some (if groups then .grouped places else .fixed places) := by
  cases groups <;> exact read_of_isSpecifier 2 (by simp [placesLetters, read]) asked

theorem writeFloat_of_isSpecifier (x : Double) (symbols : Symbols) {groups : Bool} {places : Nat}
    {format : String} (asked : IsSpecifier (placesLetters groups) places format) :
    writeFloat x (some format) symbols = writeDouble x symbols groups (x.rounded places) := by
  have read := Specifier.read_of_places asked
  cases groups <;> simp only [writeFloat, read, Bool.false_eq_true, if_false, if_true]

namespace Double

theorem writeDouble_of_isFinite {x : Double} (finite : x.isFinite) (symbols : Symbols)
    (groups : Bool) (decimal : Decimal) :
    writeDouble x symbols groups decimal =
      writeMinus (x.isNegative && !decimal.isZero) symbols ++
        writeDecimal symbols groups decimal := by
  have bound : x.magnitude < infiniteMagnitude := of_decide_eq_true finite
  have number : x.isNaN = false := decide_eq_false (by omega)
  have inside : x.isInfinite = false := beq_false_of_ne (by omega)
  rw [writeDouble, number, inside]
  rfl

theorem writeDouble_of_isPlain {x : Double} (finite : x.isFinite) {decimal : Decimal}
    (plain : decimal.IsPlain) (positive : decimal.unscaled ≠ 0 → 0 < x.magnitude)
    (symbols : Symbols) (groups : Bool) :
    writeDouble x symbols groups decimal =
      writeMinus (x.value < 0 ∧ decimal.unscaled ≠ 0) symbols ++
        writeDecimal symbols groups decimal := by
  have sign : (x.isNegative && !decimal.isZero) =
      decide (x.value < 0 ∧ decimal.unscaled ≠ 0) := by
    rw [Bool.eq_iff_iff, Bool.and_eq_true, Bool.not_eq_true', ← Bool.not_eq_true,
      Decimal.isZero_iff plain, decide_eq_true_iff, value_neg_iff]
    constructor
    · intro shown
      exact ⟨⟨shown.1, positive shown.2⟩, shown.2⟩
    · intro shown
      exact ⟨shown.1.1, shown.2⟩
  rw [writeDouble_of_isFinite finite, sign]

section

variable (x : Double) (places : Nat)

theorem isRounded_rounded :
    IsRounded (|x.value| * 10 ^ places) (x.rounded places).unscaled := by
  have scaled : |x.value| * 10 ^ places =
      ((units x.magnitude * Nat.pow 10 places : Nat) : ℚ) / unitsPerOne := by
    rw [abs_value, magnitudeValue, Nat.pow_eq]
    push_cast
    ring
  rw [rounded, Decimal.unscaled_ofScaled, scaled]
  exact isRounded_roundDiv _ _ unitsPerOne_pos

theorem magnitude_pos_of_rounded (nonzero : (x.rounded places).unscaled ≠ 0) :
    0 < x.magnitude := by
  apply Nat.pos_of_ne_zero
  intro zero
  rw [rounded, Decimal.unscaled_ofScaled, zero, units_zero, Nat.zero_mul] at nonzero
  have none_left := roundDiv_mul 0 unitsPerOne unitsPerOne_pos
  rw [Nat.zero_mul] at none_left
  exact nonzero none_left

end

/-- A finite double with a number of places is written as the nearest decimal of so many places, the
even one of two equally near ones: the sign if the number is negative and the decimal is not zero,
the integral digits as a numeral, in groups of three if that is asked for, and all places of the
fraction behind the point, if there are any. -/
theorem written_with_places {x : Double} (finite : x.isFinite) (symbols : Symbols) {groups : Bool}
    {places : Nat} {format : String}
    (asked : IsSpecifier (placesLetters groups) places format) :
    ∃ decimal : Decimal, ∃ parts,
      decimal.IsPlain ∧ decimal.fraction.length = places ∧
        IsRounded (|x.value| * 10 ^ places) decimal.unscaled ∧
        Splits groups decimal.integral parts ∧
        ((Scalar.float x).value (some format) symbols).collect =
          .ok (symbols.layOut (x.value < 0 ∧ decimal.unscaled ≠ 0) parts decimal.fraction) := by
  have plain : (x.rounded places).IsPlain := Decimal.isPlain_ofScaled _ _
  rcases Emission.exists_splits_trace symbols
      (decide (x.value < 0 ∧ (x.rounded places).unscaled ≠ 0)) groups plain with
    ⟨parts, split, written⟩
  refine ⟨x.rounded places, parts, plain, length_lastDigits _ _, x.isRounded_rounded places,
    split, ?_⟩
  rw [Emission.collect_eq_trace, Scalar.value, writeFloat_of_isSpecifier x symbols asked,
    writeDouble_of_isPlain finite plain (x.magnitude_pos_of_rounded places), written]
  rfl

theorem written_with_places_tie :
    let x : Double := ⟨0xC09F3E0000000000⟩
    let written := ((Scalar.float x).value (some "N0") .invariant).collect
    x.isFinite ∧ IsSpecifier (placesLetters true) 0 "N0" ∧ written = .ok "-2,000" ∧
      ∃ decimal : Decimal, ∃ parts,
        decimal.IsPlain ∧ decimal.fraction.length = 0 ∧
          IsRounded (|x.value| * 10 ^ 0) decimal.unscaled ∧ Splits true decimal.integral parts ∧
          written =
            .ok (Symbols.invariant.layOut (x.value < 0 ∧ decimal.unscaled ≠ 0) parts
              decimal.fraction) := by
  intro x written
  have finite : x.isFinite := by decide
  have asked : IsSpecifier (placesLetters true) 0 "N0" :=
    ⟨'N', ['0'], rfl, by decide, rfl, by decide, rfl⟩
  have text : written = .ok "-2,000" := by decide +kernel
  exact ⟨finite, asked, text, written_with_places finite .invariant asked⟩

end Double

end Stencil
