import Stencil.Proofs.FixedPoint
import Stencil.Proofs.Numeral.Shortest

namespace Stencil

namespace Double

theorem rounded_of_value_eq {x : Double} {n : Int} (same : x.value = n) (places : Nat) :
    x.rounded places = ⟨digits n.natAbs, List.replicate places '0'⟩ := by
  have scaled : units x.magnitude * Nat.pow 10 places = n.natAbs * 10 ^ places * unitsPerOne := by
    rw [units_of_value_eq same, Nat.pow_eq]
    ring
  rw [rounded, scaled, roundDiv_mul _ _ unitsPerOne_pos, Decimal.ofScaled_mul]

section

variable {x : Double} (finite : x.isFinite) {v : Int64} (same : x.value = v.toInt)
  (symbols : Symbols)
include finite same

theorem writeDouble_of_value_eq (groups : Bool) (places : Nat) :
    writeDouble x symbols groups ⟨digits v.toInt.natAbs, List.replicate places '0'⟩ =
      writeMinus (v < 0) symbols ++
        writeDecimal symbols groups ⟨digits v.toInt.natAbs, List.replicate places '0'⟩ := by
  have whole := rounded_of_value_eq same places
  have plain : (x.rounded places).IsPlain := Decimal.isPlain_ofScaled _ _
  have sign : decide (x.value < 0 ∧ (x.rounded places).unscaled ≠ 0) = decide (v < 0) := by
    rw [decide_eq_decide, whole, ← Decimal.ofScaled_mul, Decimal.unscaled_ofScaled, same,
      Int64.lt_iff_toInt_lt, Int64.toInt_zero, Int.cast_lt_zero]
    constructor
    · exact And.left
    · intro negative
      exact ⟨negative, Nat.mul_ne_zero (by omega) (Nat.pow_pos (by decide)).ne'⟩
  rw [← whole, writeDouble_of_isPlain finite plain (x.magnitude_pos_of_rounded places), sign]

theorem writeFloat_eq_writeInteger {format : String}
    (supported : NumberKind.float.Supports format) :
    writeFloat x (some format) symbols = writeInteger v (some format) symbols := by
  rcases (NumberKind.supports_iff _ _).mp supported with ⟨specifier, read, accepted⟩
  simp only [writeFloat, writeInteger, read]
  cases specifier with
  | fixed places | grouped places =>
      simp only
      rw [rounded_of_value_eq same]
      exact writeDouble_of_value_eq finite same symbols _ _
  | decimal | hexadecimal => cases accepted

theorem writeFloat_none_eq_writeInteger (small : v.toInt.natAbs ≤ 2 * mantissaCount) :
    writeFloat x none symbols = writeInteger v none symbols := by
  have written := writeDouble_of_value_eq finite same symbols false 0
  rw [writeFloat, shortest_eq_digits small (units_of_value_eq same)]
  exact written

end

/-- Where an integer is the same number as a double, both are written alike: with every format that
doubles support, and up to `2 ^ 53`, where every integer is the same number as a double, without a
format too. -/
theorem written_as_integer (v : Int64) (symbols : Symbols) :
    (∀ x : Double, x.isFinite → x.value = v.toInt →
      ∀ format, NumberKind.float.Supports format →
        ∃ text, ((Scalar.float x).value (some format) symbols).collect = .ok text ∧
          ((Scalar.int v).value (some format) symbols).collect = .ok text) ∧
      (v.toInt.natAbs ≤ 2 ^ 53 →
        (∃ x : Double, x.isFinite ∧ x.value = v.toInt) ∧
          ∀ x : Double, x.isFinite → x.value = v.toInt →
            ∃ text, ((Scalar.float x).value none symbols).collect = .ok text ∧
              ((Scalar.int v).value none symbols).collect = .ok text) := by
  constructor
  · intro x finite same format supported
    have total : (writeFloat x (some format) symbols).IsTotal := by
      apply isTotal_writeFloat
      intro text given
      rwa [← Option.some.inj given]
    have alike := writeFloat_eq_writeInteger finite same symbols supported
    refine ⟨_, total.collect_eq, ?_⟩
    rw [Scalar.value, ← alike]
    exact total.collect_eq
  · intro small
    refine ⟨exists_value_eq small, ?_⟩
    intro x finite same
    have total : (writeFloat x none symbols).IsTotal := by
      apply isTotal_writeFloat
      intro text given
      cases given
    have alike := writeFloat_none_eq_writeInteger finite same symbols small
    refine ⟨_, total.collect_eq, ?_⟩
    rw [Scalar.value, ← alike]
    exact total.collect_eq

theorem written_as_integer_last :
    let v : Int64 := -9007199254740992
    let x : Double := ⟨0xC340000000000000⟩
    x.isFinite ∧ x.value = v.toInt ∧ NumberKind.float.Supports "N1" ∧ v.toInt.natAbs ≤ 2 ^ 53 ∧
      ((Scalar.float x).value (some "N1") .invariant).collect =
        .ok "-9,007,199,254,740,992.0" ∧
      ((Scalar.float x).value none .invariant).collect = .ok "-9007199254740992" := by
  intro v x
  have finite : x.isFinite := by decide
  have same : x.value = v.toInt := by
    have negative : x.isNegative = true := by decide
    have exponent : x.exponent = 1076 := by decide
    have mantissa : x.mantissa = 0 := by decide
    have number : v.toInt = -9007199254740992 := by decide
    rw [value, negative, exponent, mantissa, number]
    norm_num
  have supported : NumberKind.float.Supports "N1" :=
    ⟨'N', ['1'], rfl, by decide, by decide, List.forall_mem_singleton.mpr rfl⟩
  have small : v.toInt.natAbs ≤ 2 ^ 53 := by decide
  rcases written_as_integer v .invariant with ⟨formatted, plain⟩
  rcases formatted x finite same "N1" supported with ⟨_, float, int⟩
  rcases (plain small).2 x finite same with ⟨_, float_plain, int_plain⟩
  refine ⟨finite, same, supported, small, float.trans ?_, float_plain.trans ?_⟩
  · rw [← int]
    decide +kernel
  · rw [← int_plain]
    decide +kernel

end Double

end Stencil
