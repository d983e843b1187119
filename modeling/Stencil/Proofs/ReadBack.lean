import Stencil.Proofs.FixedPoint
import Stencil.Proofs.Inference
import Stencil.Proofs.Numeral.Reading
import Stencil.Proofs.Numeral.Shortest

namespace Stencil

namespace Double

def text (x : Double) : List Char :=
  signed (x.isNegative && !(shortest x.magnitude).isZero) (shortest x.magnitude).text

theorem collect_eq_text {x : Double} (finite : x.isFinite) :
    ((Scalar.float x).value none .invariant).collect = .ok (String.ofList x.text) := by
  have written : writeFloat x none .invariant =
      writeDouble x .invariant false (shortest x.magnitude) := rfl
  rw [Emission.collect_eq_trace, Scalar.value, written, writeDouble_of_isFinite finite,
    Emission.trace_append, Emission.trace_writeMinus, Emission.trace_writeDecimal]
  apply congrArg Except.ok
  rw [← String.toList_inj, text, signed, Decimal.text]
  cases x.isNegative && !(shortest x.magnitude).isZero <;>
    cases (shortest x.magnitude).fraction.isEmpty <;> simp [Symbols.invariant]

theorem text_of_magnitude_eq_zero {x : Double} (zero : x.magnitude = 0) :
    x.text = signedDigits 0 := by
  rw [text, zero, shortest_zero]
  cases x.isNegative <;> rfl

def scientific (x : Double) : Scientific :=
  ⟨x.isNegative, (shortest x.magnitude).integral, (shortest x.magnitude).fraction, 0⟩

section

variable {x : Double}

theorem read_text (nonzero : 0 < x.magnitude) : Scientific.read x.text = some x.scientific := by
  have shown : (shortest x.magnitude).isZero = false := by
    rw [← Bool.not_eq_true, isZero_shortest_iff]
    exact nonzero.ne'
  rw [text, Scientific.read_signed _ (isPlain_shortest x.magnitude), shown, Bool.not_false,
    Bool.and_true]
  rfl

theorem toDouble_scientific (finite : x.isFinite) : x.scientific.toDouble = x := by
  have scale : x.scientific.scale = -(shortest x.magnitude).fraction.length := Int.zero_sub _
  have rounds : RoundsTo x.magnitude x.scientific.numerator x.scientific.denominator := by
    rw [Scientific.numerator, Scientific.denominator, scale, Int.neg_neg, Int.toNat_natCast,
      Int.toNat_neg_natCast, Nat.pow_zero, Nat.mul_one]
    exact roundsTo_shortest x.magnitude
  have nearest : x.scientific.magnitude = x.magnitude :=
    (Scientific.magnitude_eq_iff (of_decide_eq_true finite)).mpr rounds
  rw [Scientific.toDouble, nearest]
  exact x.ofMagnitude_magnitude

theorem isDenotedBy_text (finite : x.isFinite) (nonzero : 0 < x.magnitude) :
    x.IsDenotedBy x.text := by
  have same := toDouble_scientific finite
  have nearest := Scientific.toDouble_eq_iff.mp ⟨same.symm ▸ finite, same⟩
  exact ⟨x.scientific, Scientific.read_eq_some_iff.mp (read_text nonzero), nearest⟩

end

section

variable {x : Double} (finite : x.isFinite)
include finite

theorem not_isWhole_text (not_whole : ¬ unitsPerOne ∣ units x.magnitude) (n : Int) :
    ¬IsWhole x.text n := by
  have bound : x.magnitude < infiniteMagnitude := of_decide_eq_true finite
  have plain := isPlain_shortest x.magnitude
  have point : ¬ isDigits (shortest x.magnitude).text := by
    rw [plain.isDigits_text_iff, fraction_shortest_eq_nil_iff bound]
    exact not_whole
  rcases plain.exists_text_eq with ⟨first, rest, split, digit⟩
  rw [split] at point
  rw [← readInteger_eq_some_iff]
  simp [text, split, readInteger, splitSign_signed _ rest digit, point]

/-- A double that is a whole number is written as a whole number to which it is the nearest. -/
theorem exists_text_of_whole (whole : unitsPerOne ∣ units x.magnitude) :
    ∃ n : Int, x.text = signedDigits n ∧ x.IsNearest n := by
  rcases exists_shortest_whole whole with ⟨k, result, rounds⟩
  have plain := isPlain_shortest x.magnitude
  have shown : (shortest x.magnitude).isZero ↔ k = 0 := by
    rw [Decimal.isZero_iff plain, result, Decimal.unscaled_digits]
  have nearest := isNearest_of_roundsTo finite rounds Nat.one_pos
  rw [Nat.cast_one, div_one] at nearest
  have digits_only : (shortest x.magnitude).text = digits k := by
    rw [result, Decimal.text, List.isEmpty_nil, if_pos rfl, List.append_nil]
  rw [text, digits_only]
  cases sign : x.isNegative with
  | true =>
      refine ⟨-k, ?_, ?_⟩
      · have minus : (!(shortest x.magnitude).isZero) = decide (-(k : Int) < 0) := by
          rw [Bool.eq_iff_iff, Bool.not_eq_true', ← Bool.not_eq_true, shown, decide_eq_true_iff]
          omega
        rw [signedDigits_eq, Bool.true_and, minus, Int.natAbs_neg, Int.natAbs_natCast]
      · rw [sign, if_pos rfl] at nearest
        rwa [Int.cast_neg, Int.cast_natCast]
  | false =>
      refine ⟨k, ?_, ?_⟩
      · have no_minus : decide ((k : Int) < 0) = false := decide_eq_false (by omega)
        rw [signedDigits_eq, Bool.false_and, no_minus, Int.natAbs_natCast]
      · rw [sign, if_neg Bool.false_ne_true] at nearest
        rwa [Int.cast_natCast]

theorem infer_text_of_float (nonzero : 0 < x.magnitude)
    (no_integer : ∀ i : Int64, ¬IsWhole x.text i.toInt) :
    Scalar.infer (String.ofList x.text) = .float x := by
  apply Scalar.infer_of_isDenotedBy <;> rw [String.toList_ofList]
  · exact no_integer
  · exact isDenotedBy_text finite nonzero

theorem infer_text_of_not_whole (not_whole : ¬ unitsPerOne ∣ units x.magnitude) :
    Scalar.infer (String.ofList x.text) = .float x := by
  have positive : 0 < x.magnitude := by
    apply Nat.pos_of_ne_zero
    intro zero
    rw [zero, units_zero] at not_whole
    exact not_whole (Nat.dvd_zero _)
  exact infer_text_of_float finite positive fun i => not_isWhole_text finite not_whole i.toInt

theorem infer_text_of_spelled {n : Int} (spelled : x.text = signedDigits n) :
    if Int64.minValue.toInt ≤ n ∧ n ≤ Int64.maxValue.toInt then
      ∃ i : Int64, i.toInt = n ∧ Scalar.infer (String.ofList x.text) = .int i
    else Scalar.infer (String.ofList x.text) = .float x := by
  have whole := readInteger_eq_some_iff.mp (readInteger_signedDigits n)
  rw [← spelled] at whole
  split
  · next inside =>
      have word := (ofInt_eq_iff.mp ⟨inside, rfl⟩).symm
      refine ⟨Int64.ofInt n, word, Scalar.infer_of_isWhole ?_⟩
      rwa [String.toList_ofList, word]
  · next outside =>
      have positive : 0 < x.magnitude := by
        apply Nat.pos_of_ne_zero
        intro zero
        have same := readInteger_signedDigits n
        rw [← spelled, text_of_magnitude_eq_zero zero, readInteger_signedDigits] at same
        apply outside
        rw [← Option.some.inj same]
        decide
      apply infer_text_of_float finite positive
      intro i integer
      rw [whole.unique integer] at outside
      exact outside ⟨i.minValue_le_toInt, i.toInt_le⟩

/-- The text of a double without a format is read back. If the double is no whole number, the same
bits are inferred. If it is, the text is a whole number to which the double is the nearest; that
number is inferred if it is in range, and otherwise the same bits are. -/
theorem read_back :
    ∃ text, ((Scalar.float x).value none .invariant).collect = .ok text ∧
      ((¬ ∃ n : Int, x.value = n) → Scalar.infer text = .float x) ∧
      ((∃ n : Int, x.value = n) →
        ∃ n : Int, text = String.ofList (signedDigits n) ∧ x.IsNearest n ∧
          if Int64.minValue.toInt ≤ n ∧ n ≤ Int64.maxValue.toInt then
            ∃ i : Int64, i.toInt = n ∧ Scalar.infer text = .int i
          else Scalar.infer text = .float x) := by
  rw [exists_value_eq_iff]
  refine ⟨_, collect_eq_text finite, infer_text_of_not_whole finite, ?_⟩
  intro whole
  rcases exists_text_of_whole finite whole with ⟨n, spelled, nearest⟩
  exact ⟨n, congrArg String.ofList spelled, nearest, infer_text_of_spelled finite spelled⟩

end

theorem read_back_filled :
    let x : Double := ⟨0x43DFFFFFFFFFFFFF⟩
    x.isFinite ∧ x.value = 9223372036854774784 ∧
      ((Scalar.float x).value none .invariant).collect = .ok "9223372036854775000" ∧
      Scalar.infer "9223372036854775000" = .int 9223372036854775000 ∧
      x.IsNearest 9223372036854775000 := by
  intro x
  have finite : x.isFinite := by decide
  have number : x.value = 9223372036854774784 := by
    have sign : x.isNegative = false := by decide
    have exponent : x.exponent = 1085 := by decide
    have mantissa : x.mantissa = 4503599627370495 := by decide
    rw [value, sign, exponent, mantissa]
    norm_num
  have written : ((Scalar.float x).value none .invariant).collect =
      .ok "9223372036854775000" := by decide +kernel
  rcases read_back finite with ⟨text, collected, -, whole⟩
  rcases Except.ok.inj (collected.symm.trans written)
  rcases whole ⟨9223372036854774784, number⟩ with ⟨n, spelled, nearest, inferred⟩
  have same : n = 9223372036854775000 := by
    have chars : "9223372036854775000".toList = signedDigits n :=
      (congrArg String.toList spelled).trans String.toList_ofList
    have read := readInteger_signedDigits n
    rw [← chars] at read
    exact Option.some.inj (read.symm.trans (by decide))
  subst same
  rw [if_pos (by decide)] at inferred
  rcases inferred with ⟨i, fits, inferred⟩
  have word : i = 9223372036854775000 := Int64.toInt_inj.mp (fits.trans (by decide))
  rw [word] at inferred
  exact ⟨finite, number, written, inferred, by exact_mod_cast nearest⟩

end Double

end Stencil
