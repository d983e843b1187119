import Mathlib.Data.Nat.Digits.Defs
import Mathlib.Data.Nat.Digits.Lemmas
import Stencil.Proofs.Integers

namespace Stencil

def hexadecimalDigits (upper : Bool) : List Char :=
  if upper then "0123456789ABCDEF".toList else "0123456789abcdef".toList

def hexadecimalValue (upper : Bool) (text : List Char) : ℕ :=
  Nat.ofDigits 16 (text.reverse.map (hexadecimalDigits upper).idxOf)

/-- As many digits as the number has, but at least one, and at least `width` of them. -/
structure IsHexadecimal (upper : Bool) (width n : ℕ) (text : List Char) : Prop where
  digits : ∀ c ∈ text, c ∈ hexadecimalDigits upper
  value : hexadecimalValue upper text = n
  length : text.length = max width (max 1 (Nat.digits 16 n).length)

section

variable {base : ℕ} {n : ℕ}

theorem digitsAppend_one (nonzero : n ≠ 0) : Nat.digitsAppend base 1 n = Nat.digits base n := by
  have present : Nat.digits base n ≠ [] := Nat.digits_ne_nil_iff_ne_zero.mpr nonzero
  rw [Nat.digitsAppend, Nat.sub_eq_zero_of_le (List.length_pos_iff.mpr present),
    List.replicate_zero, List.append_nil]

/-- The characters of a numeral from its end. Zero has one too. -/
theorem reverse_toDigits (large : 1 < base) (n : ℕ) :
    (Nat.toDigits base n).reverse = (Nat.digitsAppend base 1 n).map Nat.digitChar := by
  induction n using Nat.strongRecOn with
  | ind n ih =>
      rw [Nat.toDigits_eq_if large]
      split
      · next single =>
          by_cases zero : n = 0
          · rw [zero, Nat.digitsAppend, Nat.digits_zero]
            rfl
          · rw [digitsAppend_one zero, Nat.digits_of_lt base n zero single]
            rfl
      · next longer =>
          have nonzero : n ≠ 0 := by omega
          have higher : n / base ≠ 0 := Nat.div_ne_zero_iff.mpr ⟨by omega, by omega⟩
          rw [List.reverse_append, ih (n / base) (Nat.div_lt_self (by omega) large),
            digitsAppend_one higher, digitsAppend_one nonzero,
            Nat.digits_def' large (Nat.pos_of_ne_zero nonzero)]
          rfl

end

def hexadecimalDigit (upper : Bool) (d : ℕ) : Char :=
  if upper then d.digitChar.toUpper else d.digitChar

def recased (upper : Bool) (c : Char) : Char := if upper then c.toUpper else c.toLower

section

variable (upper : Bool) {d : ℕ} (small : d < 16)
include small

theorem hexadecimalDigit_mem : hexadecimalDigit upper d ∈ hexadecimalDigits upper := by
  have all : ∀ upper, ∀ d : Fin 16, hexadecimalDigit upper d ∈ hexadecimalDigits upper := by decide
  exact all upper ⟨d, small⟩

theorem idxOf_hexadecimalDigit :
    (hexadecimalDigits upper).idxOf (hexadecimalDigit upper d) = d := by
  have all : ∀ upper, ∀ d : Fin 16,
      (hexadecimalDigits upper).idxOf (hexadecimalDigit upper d) = d := by decide
  exact all upper ⟨d, small⟩

theorem recased_hexadecimalDigit :
    recased (!upper) (hexadecimalDigit upper d) = hexadecimalDigit (!upper) d := by
  have all : ∀ upper, ∀ d : Fin 16,
      recased (!upper) (hexadecimalDigit upper d) = hexadecimalDigit (!upper) d := by decide
  exact all upper ⟨d, small⟩

end

section

variable (width : ℕ) (upper : Bool) (word : UInt64)

theorem reverse_padZeros_hexadecimal :
    (padZeros width (hexadecimal upper word)).reverse =
      (Nat.digitsAppend 16 (max 1 width) word.toNat).map (hexadecimalDigit upper) := by
  have plain : (Nat.toDigits 16 word.toNat).reverse = _ :=
    reverse_toDigits (by decide) word.toNat
  have numeral : (hexadecimal upper word).reverse =
      (Nat.digitsAppend 16 1 word.toNat).map (hexadecimalDigit upper) := by
    cases upper with
    | false => exact plain
    | true =>
        rw [hexadecimal, if_pos rfl, ← List.map_reverse, plain, List.map_map]
        rfl
  have zero : hexadecimalDigit upper 0 = '0' := by cases upper <;> rfl
  have length := congrArg List.length numeral
  simp only [List.length_reverse, List.length_map, Nat.digitsAppend, List.length_append,
    List.length_replicate] at length
  have fill : 1 - (Nat.digits 16 word.toNat).length + (width - (hexadecimal upper word).length) =
      max 1 width - (Nat.digits 16 word.toNat).length := by omega
  rw [padZeros, List.leftpad, List.reverse_append, List.reverse_replicate, numeral,
    Nat.digitsAppend, Nat.digitsAppend, ← fill, ← List.replicate_append_replicate]
  simp only [List.map_append, List.map_replicate, List.append_assoc, zero]

theorem isHexadecimal_padZeros :
    IsHexadecimal upper width word.toNat (padZeros width (hexadecimal upper word)) := by
  have reversed := reverse_padZeros_hexadecimal width upper word
  have small : ∀ d ∈ Nat.digitsAppend 16 (max 1 width) word.toNat, d < 16 :=
    fun _ => Nat.lt_of_mem_digitsAppend (by decide) _ _
  refine ⟨?_, ?_, ?_⟩
  · intro c member
    rw [← List.mem_reverse, reversed] at member
    rcases List.mem_map.mp member with ⟨d, place, rfl⟩
    exact hexadecimalDigit_mem upper (small d place)
  · have values : (Nat.digitsAppend 16 (max 1 width) word.toNat).map
        ((hexadecimalDigits upper).idxOf ∘ hexadecimalDigit upper) =
          Nat.digitsAppend 16 (max 1 width) word.toNat := by
      calc
        _ = (Nat.digitsAppend 16 (max 1 width) word.toNat).map id :=
          List.map_congr_left fun d place => idxOf_hexadecimalDigit upper (small d place)
        _ = _ := List.map_id _
    rw [hexadecimalValue, reversed, List.map_map, values, Nat.digitsAppend,
      Nat.ofDigits_append_replicate_zero, Nat.ofDigits_digits]
  · have length := congrArg List.length reversed
    rw [List.length_reverse, List.length_map, Nat.digitsAppend, List.length_append,
      List.length_replicate] at length
    omega

theorem map_recased_padZeros :
    (padZeros width (hexadecimal upper word)).map (recased (!upper)) =
      padZeros width (hexadecimal (!upper) word) := by
  apply List.reverse_injective
  rw [← List.map_reverse, reverse_padZeros_hexadecimal, reverse_padZeros_hexadecimal, List.map_map]
  apply List.map_congr_left
  intro d place
  exact recased_hexadecimalDigit upper (Nat.lt_of_mem_digitsAppend (by decide) _ d place)

end

/-- The letter that asks for hexadecimal digits of a case. -/
def hexadecimalLetter (upper : Bool) : Char := if upper then 'X' else 'x'

theorem collect_of_hexadecimal {upper : Bool} {width : ℕ} {format : String}
    (asked : AsksWidth [hexadecimalLetter upper] width format) (v : Int64) (symbols : Symbols) :
    ((Scalar.int v).value (some format) symbols).collect =
      .ok (String.ofList (padZeros width (hexadecimal upper v.toUInt64))) := by
  have read : Specifier.read format.toList = some (.hexadecimal upper width) := by
    apply Specifier.read_of_asksWidth _ asked
    cases upper <;> simp [hexadecimalLetter, Specifier.read]
  apply Emission.collect_of_trace
  rw [Scalar.value, writeInteger, read, Emission.trace_write]
  simp [Emission.trace]

theorem toNat_toUInt64 (v : Int64) : v.toUInt64.toNat = (v.toInt % 2 ^ 64).toNat := by
  have word := BitVec.toNat_ofInt v.toBitVec.toInt (n := 64)
  rw [BitVec.ofInt_toInt, Int64.toInt_toBitVec] at word
  exact word

/-- An integer is written in hexadecimal as the word that holds it: with digits of the case that is
asked for, as many as the word has and at least the width, and without a sign, whatever the symbols
are. No other integer is written so, and in the other case only the letters are others. -/
theorem integer_in_hexadecimal (v : Int64) {upper : Bool} {width : ℕ} {format : String}
    (asked : AsksWidth [hexadecimalLetter upper] width format) :
    ∃ text,
      (∀ symbols, ((Scalar.int v).value (some format) symbols).collect =
        .ok (String.ofList text)) ∧
      IsHexadecimal upper width (v.toInt % 2 ^ 64).toNat text ∧
      (∀ (w : Int64) symbols, ((Scalar.int w).value (some format) symbols).collect =
        .ok (String.ofList text) → w = v) ∧
      ∀ other, AsksWidth [hexadecimalLetter (!upper)] width other → ∀ symbols,
        ((Scalar.int v).value (some other) symbols).collect =
          .ok (String.ofList (text.map (recased (!upper)))) := by
  have numeral (w : Int64) := isHexadecimal_padZeros width upper w.toUInt64
  refine ⟨_, collect_of_hexadecimal asked v, ?_, ?_, ?_⟩
  · rw [← toNat_toUInt64]
    exact numeral v
  · intro w symbols written
    rw [collect_of_hexadecimal asked, Except.ok.injEq, String.ofList_inj] at written
    have same : w.toUInt64.toNat = v.toUInt64.toNat := by
      rw [← (numeral w).value, written, (numeral v).value]
    have word := congrArg UInt64.toInt64 (UInt64.toNat_inj.mp same)
    rwa [Int64.toInt64_toUInt64, Int64.toInt64_toUInt64] at word
  · intro other asked_other symbols
    rw [collect_of_hexadecimal asked_other, map_recased_padZeros]

theorem integer_in_hexadecimal_negative :
    let v : Int64 := -255
    AsksWidth [hexadecimalLetter true] 18 "X18" ∧ AsksWidth [hexadecimalLetter false] 18 "x18" ∧
      ((Scalar.int v).value (some "X18") .invariant).collect = .ok "00FFFFFFFFFFFFFF01" ∧
      ((Scalar.int v).value (some "x18") .invariant).collect = .ok "00ffffffffffffff01" ∧
      ∃ text, String.ofList text = "00FFFFFFFFFFFFFF01" ∧
        IsHexadecimal true 18 18446744073709551361 text ∧
        (∀ (w : Int64) symbols, ((Scalar.int w).value (some "X18") symbols).collect =
          .ok (String.ofList text) → w = v) ∧
        ((Scalar.int v).value (some "x18") .invariant).collect =
          .ok (String.ofList (text.map (recased false))) := by
  intro v
  have capital : AsksWidth [hexadecimalLetter true] 18 "X18" :=
    ⟨'X', ['1', '8'], rfl, by decide, List.all_eq_true.mp rfl, by decide, rfl⟩
  have small : AsksWidth [hexadecimalLetter false] 18 "x18" :=
    ⟨'x', ['1', '8'], rfl, by decide, List.all_eq_true.mp rfl, by decide, rfl⟩
  have written : ((Scalar.int v).value (some "X18") .invariant).collect =
      .ok "00FFFFFFFFFFFFFF01" := by decide +kernel
  rcases integer_in_hexadecimal v capital with ⟨text, collected, numeral, told, recase⟩
  have same : String.ofList text = "00FFFFFFFFFFFFFF01" :=
    Except.ok.inj ((collected .invariant).symm.trans written)
  exact ⟨capital, small, written, by decide +kernel, text, same, numeral, told,
    recase _ small .invariant⟩

end Stencil
