import Stencil.Proofs.FixedPoint
import Stencil.Proofs.Inference
import Stencil.Proofs.Numeral.Reading

namespace Stencil

theorem Specifier.read_of_asksWidth {letters : List Char} {make : Nat → Specifier}
    (same : ∀ letter ∈ letters, ∀ text, read (letter :: text) = (readCount 0 text).map make)
    {width : Nat} {format : String} (asked : AsksWidth letters width format) :
    read format.toList = some (make width) := by
  rcases asked with ⟨letter, text, split, known, digits, short, value⟩
  by_cases empty : text = []
  · subst empty
    have zero : width = 0 := value.symm
    rw [split, same letter known, zero]
    rfl
  · exact read_of_isSpecifier 0 same
      ⟨letter, text, split, known, isDigits_iff.mpr ⟨empty, digits⟩, short, value⟩

section

variable (v : Int64) (symbols : Symbols)

theorem writeInteger_of_isSpecifier {groups : Bool} {places : Nat} {format : String}
    (asked : IsSpecifier (placesLetters groups) places format) :
    writeInteger v (some format) symbols =
      writeMinus (v < 0) symbols ++
        writeDecimal symbols groups ⟨digits v.toInt.natAbs, List.replicate places '0'⟩ := by
  have read := Specifier.read_of_places asked
  cases groups <;> simp only [writeInteger, read, Bool.false_eq_true, if_false, if_true]

theorem writeInteger_of_asksWidth {width : Nat} {format : String}
    (asked : AsksWidth ['D', 'd'] width format) :
    writeInteger v (some format) symbols =
      writeMinus (v < 0) symbols ++
        writeDecimal symbols false ⟨padZeros width (digits v.toInt.natAbs), []⟩ := by
  have read : Specifier.read format.toList = some (.decimal width) :=
    Specifier.read_of_asksWidth (by simp [Specifier.read]) asked
  simp only [writeInteger, read]
  rfl

theorem isPlain_zeros (n places : Nat) :
    Decimal.IsPlain ⟨digits n, List.replicate places '0'⟩ := by
  rw [← Decimal.ofScaled_mul]
  exact Decimal.isPlain_ofScaled _ _

/-- An integer is written with the numeral of its magnitude, and the sign in front of it if it is
negative. With a number of places the numeral is in groups of three, if that is asked for, and so
many zeros stand behind the point. With a width zeros fill the numeral up to it, and the sign is not
counted. -/
theorem integer_laid_out :
    ∃ numeral, IsNumeral numeral ∧ digitsValue numeral = v.toInt.natAbs ∧
      (∀ groups places format, IsSpecifier (placesLetters groups) places format →
        ∃ parts, Splits groups numeral parts ∧
          ((Scalar.int v).value (some format) symbols).collect =
            .ok (symbols.layOut (v < 0) parts (List.replicate places '0'))) ∧
      ∀ width format, AsksWidth ['D', 'd'] width format →
        ((Scalar.int v).value (some format) symbols).collect =
          .ok (symbols.layOut (v < 0)
            [List.replicate (width - numeral.length) '0' ++ numeral] []) := by
  refine ⟨digits v.toInt.natAbs, isNumeral_digits _, digitsValue_digits _, ?_, ?_⟩
  · intro groups places format asked
    rcases Emission.exists_splits_trace symbols (v < 0) groups
      (isPlain_zeros v.toInt.natAbs places) with ⟨parts, split, written⟩
    rw [← writeInteger_of_isSpecifier v symbols asked] at written
    exact ⟨parts, split, Emission.collect_of_trace written⟩
  · intro width format asked
    have written := Emission.trace_whole symbols (v < 0)
      ⟨padZeros width (digits v.toInt.natAbs), []⟩
    rw [← writeInteger_of_asksWidth v symbols asked] at written
    exact Emission.collect_of_trace written

end

theorem integer_laid_out_least :
    let v : Int64 := -9223372036854775808
    let symbols : Symbols := ⟨"", "~~", "minus "⟩
    IsSpecifier (placesLetters true) 2 "N02" ∧ IsSpecifier (placesLetters false) 0 "f0" ∧
      AsksWidth ['D', 'd'] 20 "D20" ∧
      ∃ numeral, IsNumeral numeral ∧ digitsValue numeral = 9223372036854775808 ∧
        (∃ parts, Splits true numeral parts ∧
          ((Scalar.int v).value (some "N02") symbols).collect =
            .ok (symbols.layOut true parts ['0', '0'])) ∧
        (∃ parts, Splits false numeral parts ∧
          ((Scalar.int v).value (some "f0") symbols).collect =
            .ok (symbols.layOut true parts [])) ∧
        ((Scalar.int v).value (some "D20") symbols).collect =
          .ok (symbols.layOut true [List.replicate (20 - numeral.length) '0' ++ numeral] []) ∧
        ((Scalar.int v).value (some "N02") symbols).collect =
          .ok "minus 9~~223~~372~~036~~854~~775~~80800" ∧
        ((Scalar.int v).value (some "D20") symbols).collect =
          .ok "minus 09223372036854775808" := by
  intro v symbols
  have grouped : IsSpecifier (placesLetters true) 2 "N02" :=
    ⟨'N', ['0', '2'], rfl, by decide, rfl, by decide, rfl⟩
  have fixed : IsSpecifier (placesLetters false) 0 "f0" :=
    ⟨'f', ['0'], rfl, by decide, rfl, by decide, rfl⟩
  have filled : AsksWidth ['D', 'd'] 20 "D20" :=
    ⟨'D', ['2', '0'], rfl, by decide, List.all_eq_true.mp rfl, by decide, rfl⟩
  rcases integer_laid_out v symbols with ⟨numeral, plain, value, places, width⟩
  exact ⟨grouped, fixed, filled, numeral, plain, value, places true 2 _ grouped,
    places false 0 _ fixed, width 20 _ filled, by decide +kernel, by decide +kernel⟩

theorem isDigits_padZeros (width : Nat) {text : List Char} (decimal : isDigits text) :
    isDigits (padZeros width text) := by
  rcases isDigits_iff.mp decimal with ⟨present, digits⟩
  rw [padZeros, List.leftpad, isDigits_iff, List.forall_mem_append]
  refine ⟨List.append_ne_nil_of_right_ne_nil _ present, ?_, digits⟩
  intro c member
  rw [List.eq_of_mem_replicate member]
  rfl

theorem digitsValue_padZeros (width : Nat) (text : List Char) :
    digitsValue (padZeros width text) = digitsValue text := by
  rw [padZeros, List.leftpad, digitsValue_append, digitsValue_zeros, Nat.zero_mul, Nat.zero_add]

section

variable (v : Int64) {format : Option String}
  (asked : ∀ text ∈ format, ∃ width, AsksWidth ['D', 'd'] width text)
include asked

theorem exists_width_of_asked : ∃ width,
    ((Scalar.int v).value format .invariant).collect =
      .ok (String.ofList (signed (v < 0) (padZeros width (digits v.toInt.natAbs)))) := by
  have spelled (width : Nat) := Emission.trace_whole .invariant (v < 0)
    ⟨padZeros width (digits v.toInt.natAbs), []⟩
  have laid_out (text : List Char) : Symbols.invariant.layOut (v < 0) [text] [] =
      String.ofList (signed (v < 0) text) := by
    cases decide (v < 0) <;> simp [Symbols.layOut, Symbols.invariant, signed, String.ofList_cons]
  cases format with
  | none =>
      have unfilled : padZeros 0 (digits v.toInt.natAbs) = digits v.toInt.natAbs := by
        simp [padZeros, List.leftpad]
      have written := spelled 0
      rw [laid_out] at written
      refine ⟨0, Emission.collect_of_trace ?_⟩
      rw [← written, unfilled]
      rfl
  | some text =>
      rcases asked text rfl with ⟨width, asked⟩
      have written := spelled width
      rw [laid_out, ← writeInteger_of_asksWidth v .invariant asked] at written
      exact ⟨width, Emission.collect_of_trace written⟩

/-- An integer that is written without groups and places is inferred from its text again. -/
theorem integer_read_back : ∃ text,
    ((Scalar.int v).value format .invariant).collect = .ok text ∧ Scalar.infer text = .int v := by
  rcases exists_width_of_asked v asked with ⟨width, written⟩
  refine ⟨_, written, Scalar.infer_of_isWhole ?_⟩
  have whole := isWhole_signed (v < 0) (isDigits_padZeros width (isDigits_digits v.toInt.natAbs))
  have number : (if decide (v < 0) then -(v.toInt.natAbs : Int) else v.toInt.natAbs) = v.toInt := by
    simp only [decide_eq_true_eq, Int64.lt_iff_toInt_lt, Int64.toInt_zero]
    split <;> omega
  rw [digitsValue_padZeros, digitsValue_digits, number] at whole
  rwa [String.toList_ofList]

end

theorem integer_read_back_least :
    let v : Int64 := -9223372036854775808
    (∀ text ∈ (none : Option String), ∃ width, AsksWidth ['D', 'd'] width text) ∧
      (∀ text ∈ some "d25", ∃ width, AsksWidth ['D', 'd'] width text) ∧
      (∃ text, ((Scalar.int v).value none .invariant).collect = .ok text ∧
        Scalar.infer text = .int v) ∧
      (∃ text, ((Scalar.int v).value (some "d25") .invariant).collect = .ok text ∧
        Scalar.infer text = .int v) ∧
      ((Scalar.int v).value (some "d25") .invariant).collect =
        .ok "-0000009223372036854775808" := by
  intro v
  have unformatted : ∀ text ∈ (none : Option String), ∃ width, AsksWidth ['D', 'd'] width text :=
    nofun
  have filled : ∀ text ∈ some "d25", ∃ width, AsksWidth ['D', 'd'] width text := by
    intro text same
    rcases Option.some.inj same
    exact ⟨25, 'd', ['2', '5'], rfl, by decide, List.all_eq_true.mp rfl, by decide, rfl⟩
  exact ⟨unformatted, filled, integer_read_back v unformatted, integer_read_back v filled,
    by decide +kernel⟩

end Stencil
