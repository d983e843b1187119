import Mathlib.Tactic.Ring
import Stencil.Numeral.Decimal
import Stencil.Value.Layout

namespace Stencil

theorem digitsValue_append (a b : List Char) :
    digitsValue (a ++ b) = digitsValue a * 10 ^ b.length + digitsValue b := by
  rw [digitsValue, Nat.ofDigitChars_append, Nat.ofDigitChars_eq_ofDigitChars_zero, Nat.mul_comm]
  rfl

theorem digitsValue_digitChar {d : Nat} (small : d < 10) : digitsValue [d.digitChar] = d := by
  rw [digitsValue, Nat.ofDigitChars_cons_digitChar_of_lt_ten small, Nat.mul_zero, Nat.zero_add]
  rfl

theorem digitsValue_zeros (count : Nat) : digitsValue (List.replicate count '0') = 0 := by
  rw [digitsValue, Nat.ofDigitChars_replicate_zero, Nat.mul_zero]

theorem isDigits_iff {text : List Char} : isDigits text ↔ text ≠ [] ∧ ∀ c ∈ text, c.isDigit := by
  simp only [isDigits, Bool.and_eq_true, Bool.not_eq_true', List.isEmpty_eq_false_iff,
    List.all_eq_true]

theorem isDigit_of_mem_isDigits {text : List Char} (decimal : isDigits text) {c : Char}
    (member : c ∈ text) : c.isDigit := (isDigits_iff.mp decimal).2 c member

theorem exists_cons_of_isDigits {text : List Char} (decimal : isDigits text) :
    ∃ first rest, text = first :: rest ∧ first.isDigit := by
  rcases isDigits_iff.mp decimal with ⟨present, digits⟩
  rcases List.exists_cons_of_ne_nil present with ⟨first, rest, rfl⟩
  exact ⟨first, rest, rfl, digits first List.mem_cons_self⟩

theorem digitsValue_eq_zero_iff {text : List Char} (decimal : ∀ c ∈ text, c.isDigit) :
    digitsValue text = 0 ↔ ∀ c ∈ text, c = '0' := by
  induction text with
  | nil => simp [digitsValue]
  | cons c rest ih =>
      have sum : digitsValue (c :: rest) = digitsValue [c] * 10 ^ rest.length + digitsValue rest :=
        digitsValue_append [c] rest
      have first : digitsValue [c] = 0 ↔ c = '0' := by
        have least := (Char.isDigit_iff_toNat.mp (decimal c List.mem_cons_self)).1
        have value : digitsValue [c] = c.toNat - '0'.toNat := by
          rw [digitsValue, Nat.ofDigitChars_cons, Nat.ofDigitChars_nil, Nat.mul_zero, Nat.zero_add]
        rw [value, ← Char.toNat_inj]
        omega
      rw [sum, List.forall_mem_cons, ← first,
        ← ih fun c member => decimal c (List.mem_cons_of_mem _ member)]
      simp

section

variable (places n : Nat)

theorem isDigit_of_mem_lastDigits : ∀ c ∈ lastDigits places n, c.isDigit := by
  induction places generalizing n with
  | zero => nofun
  | succ places ih =>
      intro c member
      rcases List.mem_append.mp member with earlier | last
      · exact ih (n / 10) c earlier
      · rw [List.mem_singleton.mp last, Nat.isDigit_digitChar]
        exact decide_eq_true (Nat.mod_lt n (by decide))

theorem digitsValue_lastDigits : digitsValue (lastDigits places n) = n % 10 ^ places := by
  induction places generalizing n with
  | zero => rw [Nat.pow_zero, Nat.mod_one]; rfl
  | succ places ih =>
      rw [lastDigits, digitsValue_append, ih, digitsValue_digitChar (Nat.mod_lt n (by decide)),
        Nat.pow_succ', Nat.mod_mul]
      simp only [List.length_singleton, Nat.pow_one]
      ring

theorem lastDigits_mul : lastDigits places (n * 10 ^ places) = List.replicate places '0' := by
  induction places generalizing n with
  | zero => rfl
  | succ places ih =>
      have shifted : n * 10 ^ (places + 1) = n * 10 ^ places * 10 := by ring
      rw [lastDigits, shifted, Nat.mul_div_cancel _ (by decide), Nat.mul_mod_left, ih,
        List.replicate_succ']
      rfl

end

theorem isNumeral_digits (n : Nat) : IsNumeral (digits n) := by
  refine ⟨isDigits_digits n, ?_⟩
  induction n using Nat.strongRecOn with
  | ind n ih =>
      intro zero
      rw [digits, Nat.toDigits_eq_if (by decide)] at zero ⊢
      split at zero
      · next single =>
          rw [if_pos single]
          exact congrArg (fun c => [c]) (Option.some.inj zero)
      · next longer =>
          -- A numeral of several digits starts as the numeral without its last digit does.
          have zero : (digits (n / 10)).head? = some '0' := by
            have present : digits (n / 10) ≠ [] := Nat.toDigits_ne_nil
            rcases List.exists_cons_of_ne_nil present with ⟨c, rest, split⟩
            rw [← digits, split] at zero
            rw [split]
            exact zero
          have first := ih (n / 10) (Nat.div_lt_self (by omega) (by decide)) zero
          have value := congrArg digitsValue first
          rw [digitsValue_digits] at value
          have small : n / 10 ≠ 0 := by omega
          exact absurd value small

theorem length_digits_le_iff {n count : Nat} (positive : 0 < count) :
    (digits n).length ≤ count ↔ n < 10 ^ count :=
  Nat.length_toDigits_le_iff (by decide) positive

theorem pow_length_digits_le {n : Nat} (nonzero : n ≠ 0) : 10 ^ ((digits n).length - 1) ≤ n := by
  have present : 0 < (digits n).length := List.length_pos_iff.mpr Nat.toDigits_ne_nil
  by_contra less
  rcases Nat.eq_zero_or_pos ((digits n).length - 1) with single | several
  · rw [single] at less
    omega
  · have shorter := (length_digits_le_iff several).mpr (Nat.lt_of_not_le less)
    omega

theorem dropZerosEnd_zeros (count : Nat) : dropZerosEnd (List.replicate count '0') = [] := by
  induction count with
  | zero => rfl
  | succ count ih => rw [List.replicate_succ, dropZerosEnd, ih, if_pos rfl]

theorem exists_zeros (text : List Char) :
    ∃ count, text = dropZerosEnd text ++ List.replicate count '0' := by
  induction text with
  | nil => exact ⟨0, rfl⟩
  | cons c rest ih =>
      rcases ih with ⟨count, split⟩
      rw [dropZerosEnd]
      cases kept : dropZerosEnd rest with
      | nil =>
          rw [kept, List.nil_append] at split
          by_cases zero : c = '0'
          · refine ⟨count + 1, ?_⟩
            rw [split, if_pos zero, zero, List.replicate_succ, List.nil_append]
          · exact ⟨count, by rw [split, if_neg zero, List.singleton_append]⟩
      | cons d more =>
          rw [kept] at split
          exact ⟨count, congrArg (c :: ·) split⟩

namespace Decimal

section

variable (n places : Nat)

theorem isPlain_ofScaled : (ofScaled n places).IsPlain :=
  ⟨isNumeral_digits _, isDigit_of_mem_lastDigits places n⟩

theorem unscaled_ofScaled : (ofScaled n places).unscaled = n := by
  simp only [unscaled, ofScaled, digitsValue_append, digitsValue_digits, digitsValue_lastDigits,
    length_lastDigits, Nat.pow_eq]
  exact Nat.div_add_mod' n _

theorem unscaled_digits : (⟨digits n, []⟩ : Decimal).unscaled = n := by
  rw [unscaled, List.append_nil, digitsValue_digits]

theorem ofScaled_mul :
    ofScaled (n * 10 ^ places) places = ⟨digits n, List.replicate places '0'⟩ := by
  rw [ofScaled, Nat.pow_eq, Nat.mul_div_cancel _ (Nat.pow_pos (by decide)), lastDigits_mul]

end

variable {decimal : Decimal}

theorem IsPlain.trimmed (plain : decimal.IsPlain) : decimal.trimmed.IsPlain := by
  refine ⟨plain.integral, ?_⟩
  intro c member
  rcases exists_zeros decimal.fraction with ⟨count, split⟩
  apply plain.fraction
  rw [split]
  exact List.mem_append_left _ member

theorem exists_unscaled_trimmed (n places : Nat) :
    ∃ count, places = (ofScaled n places).trimmed.fraction.length + count ∧
      n = (ofScaled n places).trimmed.unscaled * 10 ^ count := by
  rcases exists_zeros (ofScaled n places).fraction with ⟨count, split⟩
  refine ⟨count, ?_, ?_⟩
  · have length := congrArg List.length split
    rw [List.length_append, List.length_replicate] at length
    exact (length_lastDigits places n).symm.trans length
  · have whole := unscaled_ofScaled n places
    rw [unscaled, split, ← List.append_assoc, digitsValue_append, digitsValue_zeros,
      List.length_replicate, Nat.add_zero] at whole
    exact whole.symm

theorem isZero_iff (plain : decimal.IsPlain) : decimal.isZero ↔ decimal.unscaled = 0 := by
  have decimal_digits : ∀ c ∈ decimal.integral ++ decimal.fraction, c.isDigit := by
    rw [List.forall_mem_append]
    exact ⟨fun c => isDigit_of_mem_isDigits plain.integral.digits, plain.fraction⟩
  rw [unscaled, digitsValue_eq_zero_iff decimal_digits, List.forall_mem_append]
  simp only [isZero, Bool.and_eq_true, List.all_eq_true, beq_iff_eq]

end Decimal

theorem length_flatten_full {groups : List (List Char)}
    (full : ∀ group ∈ groups, group.length = 3) : groups.flatten.length = 3 * groups.length := by
  induction groups with
  | nil => rfl
  | cons group others ih =>
      rcases List.forall_mem_cons.mp full with ⟨first, later⟩
      rw [List.flatten_cons, List.length_append, ih later, first, List.length_cons]
      ring

theorem exists_splits_grouped (separator : List Char) {text : List Char} (present : text ≠ []) :
    ∃ parts, Splits true text parts ∧ grouped separator text = separator.intercalate parts := by
  induction text with
  | nil => contradiction
  | cons c rest ih =>
      by_cases single : rest = []
      · subst single
        have alone : Splits true ([c] ++ [].flatten) [[c]] := .groups (by simp) (by simp) nofun
        exact ⟨[[c]], alone, by simp [grouped]⟩
      · rcases ih single with ⟨parts, split, same⟩
        cases split with
        | @groups first others nonempty short full =>
            have count : (first ++ others.flatten).length = first.length + 3 * others.length := by
              rw [List.length_append, length_flatten_full full]
            have some_first := List.length_pos_iff.mpr nonempty
            by_cases whole : (first ++ others.flatten).length % 3 = 0
            · -- The first group is full, so the digit in front of it begins a group.
              have all_full : ∀ group ∈ first :: others, group.length = 3 := by
                rw [List.forall_mem_cons]
                exact ⟨by omega, full⟩
              have begun :
                  Splits true ([c] ++ (first :: others).flatten) ([c] :: first :: others) :=
                .groups (by simp) (by simp) all_full
              refine ⟨_, begun, ?_⟩
              rw [grouped, if_pos ⟨single, whole⟩, same, List.intercalate_cons_cons]
              rfl
            · have room : (c :: first).length ≤ 3 := by
                rw [List.length_cons]
                omega
              have joined : Splits true (c :: first ++ others.flatten) ((c :: first) :: others) :=
                .groups (by simp) room full
              refine ⟨_, joined, ?_⟩
              rw [grouped, if_neg (not_and_of_not_right _ whole), same]
              cases others with
              | nil => rw [List.intercalate_singleton, List.intercalate_singleton]
              | cons second more =>
                  rw [List.intercalate_cons_cons, List.intercalate_cons_cons]
                  rfl

end Stencil
