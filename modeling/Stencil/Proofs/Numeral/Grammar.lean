import Stencil.Numeral.Grammar
import Stencil.Proofs.Numeral.Digits

namespace Stencil

theorem isSigned_splitSign (text : List Char) :
    IsSigned (splitSign text).2 (splitSign text).1 text := by
  fun_cases splitSign text with
  | case1 => exact .minus
  | case2 => exact .plus
  | case3 => exact .bare

theorem IsSigned.splitSign_eq {first : Char} {rest text : List Char} {negative : Bool}
    (spelled : IsSigned (first :: rest) negative text) (no_sign : first ∉ ['-', '+']) :
    splitSign text = (negative, first :: rest) := by
  cases spelled with
  | bare =>
      unfold splitSign
      split
      · next same => simp [(List.cons.inj same).1] at no_sign
      · next same => simp [(List.cons.inj same).1] at no_sign
      · rfl
  | plus | minus => rfl

theorem not_sign_of_isDigit {c : Char} (digit : c.isDigit) : c ∉ ['-', '+'] := by
  intro member
  have signs : ['-', '+'].all fun c => !c.isDigit := by decide
  have other := List.all_eq_true.mp signs c member
  rw [digit] at other
  cases other

theorem IsSigned.splitSign_of_isDigits {magnitude text : List Char} {negative : Bool}
    (spelled : IsSigned magnitude negative text) (decimal : isDigits magnitude) :
    splitSign text = (negative, magnitude) := by
  rcases exists_cons_of_isDigits decimal with ⟨first, rest, rfl, digit⟩
  exact spelled.splitSign_eq (not_sign_of_isDigit digit)

theorem readInteger_eq_some_iff {text : List Char} {n : Int} :
    readInteger text = some n ↔ IsWhole text n := by
  constructor
  · intro read
    have spelled := isSigned_splitSign text
    rw [readInteger] at read
    generalize splitSign text = split at read spelled
    rcases split with ⟨negative, magnitude⟩
    simp only [Option.ite_none_right_eq_some, Option.some.injEq] at read
    rcases read with ⟨decimal, rfl⟩
    cases negative with
    | false => exact .nonnegative decimal spelled
    | true => exact .negated decimal spelled
  · intro whole
    cases whole with
    | nonnegative decimal spelled | negated decimal spelled =>
        simp [readInteger, spelled.splitSign_of_isDigits decimal, decimal]

theorem IsWhole.unique {text : List Char} {m n : Int} (first : IsWhole text m)
    (second : IsWhole text n) : m = n := by
  rw [← readInteger_eq_some_iff] at first second
  exact Option.some.inj (first.symm.trans second)

section

variable {text integral fraction : List Char}

theorem IsMantissa.of_readMantissa (read : readMantissa text = some (integral, fraction)) :
    IsMantissa text integral fraction := by
  rw [readMantissa] at read
  cases cut : cutAt '.' text with
  | mk before after =>
  simp only [cut, Option.ite_none_right_eq_some, Option.some.injEq, Prod.mk.injEq] at read
  rcases read with ⟨decimal, rfl, rfl⟩
  cases after with
  | none =>
      rw [Option.getD_none, List.append_nil] at decimal
      rw [← (cutAt_eq_none cut).1]
      exact .whole decimal
  | some rest =>
      rw [(cutAt_eq_some cut).1]
      by_cases empty : before = []
      · rw [empty] at decimal ⊢
        exact .bare decimal
      · rw [isDigits_iff, List.forall_mem_append] at decimal
        exact .pointed (isDigits_iff.mpr ⟨empty, decimal.2.1⟩) decimal.2.2

theorem point_not_mem (digits : ∀ c ∈ text, c.isDigit) : '.' ∉ text :=
  fun member => absurd (digits _ member) (by decide)

theorem IsMantissa.readMantissa_eq (mantissa : IsMantissa text integral fraction) :
    readMantissa text = some (integral, fraction) := by
  cases mantissa with
  | whole decimal =>
      have cut := cutAt_of_not_mem (point_not_mem (isDigits_iff.mp decimal).2)
      simp [readMantissa, cut, decimal]
  | pointed decimal others =>
      rcases isDigits_iff.mp decimal with ⟨present, digits⟩
      have cut := cutAt_append (point_not_mem digits) fraction
      have all_digits : isDigits (integral ++ fraction) := by
        rw [isDigits_iff, List.forall_mem_append]
        exact ⟨List.append_ne_nil_of_left_ne_nil present _, digits, others⟩
      simp [readMantissa, cut, all_digits]
  | bare decimal => simp [readMantissa, cutAt_self, decimal]

theorem IsMantissa.mem (mantissa : IsMantissa text integral fraction) {c : Char}
    (member : c ∈ text) : c.isDigit ∨ c = '.' := by
  cases mantissa with
  | whole decimal => exact .inl (isDigit_of_mem_isDigits decimal member)
  | pointed decimal others =>
      rcases List.mem_append.mp member with before | behind
      · exact .inl (isDigit_of_mem_isDigits decimal before)
      · rcases List.mem_cons.mp behind with point | behind
        · exact .inr point
        · exact .inl (others c behind)
  | bare decimal =>
      rcases List.mem_cons.mp member with point | behind
      · exact .inr point
      · exact .inl (isDigit_of_mem_isDigits decimal behind)

end

def lowered (text : List Char) : List Char := text.map fun c => if c = 'E' then 'e' else c

theorem lowered_of_not_mem {text : List Char} (absent : 'E' ∉ text) : lowered text = text := by
  calc
    lowered text = text.map id := by
      apply List.map_congr_left
      intro c member
      have other : c ≠ 'E' := fun capital => absent (capital ▸ member)
      exact if_neg other
    _ = text := List.map_id text

theorem eq_of_lowered_eq {text same : List Char} (result : lowered text = same)
    (absent : 'e' ∉ same) : text = same := by
  rw [← result] at absent ⊢
  have no_capital : 'E' ∉ text := fun member => absent (List.mem_map.mpr ⟨'E', member, rfl⟩)
  exact (lowered_of_not_mem no_capital).symm

theorem exists_letter_of_lowered_eq {text before after : List Char}
    (result : lowered text = before ++ 'e' :: after) (absent_before : 'e' ∉ before)
    (absent_after : 'e' ∉ after) : ∃ letter ∈ ['e', 'E'], text = before ++ letter :: after := by
  rcases List.map_eq_append_iff.mp result with ⟨first, second, rfl, before_eq, second_eq⟩
  rcases List.map_eq_cons_iff.mp second_eq with ⟨letter, rest, rfl, letter_eq, after_eq⟩
  refine ⟨letter, ?_, ?_⟩
  · split at letter_eq
    · next capital => simp [capital]
    · simp [letter_eq]
  · rw [eq_of_lowered_eq before_eq absent_before, eq_of_lowered_eq after_eq absent_after]

theorem lowered_letter {letter : Char} (known : letter ∈ ['e', 'E']) {before after : List Char}
    (absent_before : 'E' ∉ before) (absent_after : 'E' ∉ after) :
    lowered (before ++ letter :: after) = before ++ 'e' :: after := by
  have small : lowered [letter] = ['e'] := by
    have both : ['e', 'E'].all fun letter => lowered [letter] == ['e'] := by decide
    exact eq_of_beq (List.all_eq_true.mp both letter known)
  calc
    lowered (before ++ letter :: after) = lowered before ++ (lowered [letter] ++ lowered after) := by
      simp only [lowered, List.map_append, List.map_cons, List.map_nil, List.singleton_append]
    _ = before ++ 'e' :: after := by
      rw [small, lowered_of_not_mem absent_before, lowered_of_not_mem absent_after]
      rfl

theorem plain_of_mem {letter : Char} (known : letter ∈ ['e', 'E']) :
    ¬letter.isDigit ∧ letter ≠ '.' ∧ letter ≠ '-' ∧ letter ≠ '+' := by
  have letters : ['e', 'E'].all fun c => !c.isDigit && c != '.' && c != '-' && c != '+' := by decide
  simpa [and_assoc] using List.all_eq_true.mp letters letter known

theorem IsWhole.not_mem {text : List Char} {n : Int} (whole : IsWhole text n) {letter : Char}
    (known : letter ∈ ['e', 'E']) : letter ∉ text := by
  rcases plain_of_mem known with ⟨no_digit, -, no_minus, no_plus⟩
  have plain {magnitude : List Char} (decimal : isDigits magnitude) : letter ∉ magnitude :=
    fun member => no_digit (isDigit_of_mem_isDigits decimal member)
  cases whole with
  | nonnegative decimal spelled | negated decimal spelled =>
      cases spelled <;> simp [no_minus, no_plus, plain decimal]

theorem IsMantissa.not_mem {text integral fraction : List Char}
    (mantissa : IsMantissa text integral fraction) {letter : Char}
    (known : letter ∈ ['e', 'E']) : letter ∉ text := by
  rcases plain_of_mem known with ⟨no_digit, no_point, -⟩
  intro member
  rcases mantissa.mem member with digit | point
  · exact no_digit digit
  · exact no_point point

theorem IsMantissa.exists_cons {text integral fraction : List Char}
    (mantissa : IsMantissa text integral fraction) :
    ∃ first rest, text = first :: rest ∧ first ∉ ['-', '+'] := by
  have present : text ≠ [] := by
    cases mantissa with
    | whole decimal => exact (isDigits_iff.mp decimal).1
    | pointed | bare => simp
  rcases List.exists_cons_of_ne_nil present with ⟨first, rest, rfl⟩
  refine ⟨first, rest, rfl, ?_⟩
  rcases mantissa.mem List.mem_cons_self with digit | rfl
  · exact not_sign_of_isDigit digit
  · decide

namespace Scientific

variable {number : Scientific} {text : List Char}

theorem read_lowered (text : List Char) : read text =
    (do
      let (mantissa, after) := cutAt 'e' (lowered (splitSign text).2)
      let (integral, fraction) ← readMantissa mantissa
      let exponent ← after.elim (some 0) readInteger
      return ⟨(splitSign text).1, integral, fraction, exponent⟩) := rfl

theorem Spells.of_read (found : read text = some number) : number.Spells text := by
  have spelled := isSigned_splitSign text
  rw [read_lowered] at found
  generalize splitSign text = split at found spelled
  rcases split with ⟨negative, unsigned⟩
  cases cut : cutAt 'e' (lowered unsigned) with
  | mk mantissa after =>
  simp only [cut, Option.bind_eq_bind, Option.bind_eq_some_iff, Option.pure_def,
    Option.some.injEq] at found
  rcases found with ⟨⟨integral, fraction⟩, read_mantissa, exponent, read_exponent, rfl⟩
  have digits := IsMantissa.of_readMantissa read_mantissa
  have absent : 'e' ∉ mantissa := digits.not_mem (by decide)
  cases after with
  | none =>
      rcases Option.some.inj read_exponent
      have same := eq_of_lowered_eq (cutAt_eq_none cut).1.symm absent
      rw [same, ← List.append_nil mantissa] at spelled
      exact ⟨digits, .absent, spelled⟩
  | some rest =>
      -- The letter may have been a capital one, but neither part has another.
      have whole := readInteger_eq_some_iff.mp read_exponent
      rcases exists_letter_of_lowered_eq (cutAt_eq_some cut).1 absent
        (whole.not_mem (by decide)) with ⟨letter, known, same⟩
      rw [same] at spelled
      exact ⟨digits, .present known whole, spelled⟩

theorem Spells.read_eq (spelled : number.Spells text) : read text = some number := by
  cases spelled with
  | @intro mantissa exponent digits scale sign =>
  have unsigned : splitSign text = (number.negative, mantissa ++ exponent) := by
    rcases digits.exists_cons with ⟨first, rest, rfl, no_sign⟩
    exact sign.splitSign_eq no_sign
  have no_capital : 'E' ∉ mantissa := digits.not_mem (by decide)
  have no_small : 'e' ∉ mantissa := digits.not_mem (by decide)
  rw [read_lowered, unsigned]
  rcases number with ⟨negative, integral, fraction, power⟩
  cases scale with
  | absent =>
      rw [List.append_nil, lowered_of_not_mem no_capital, cutAt_of_not_mem no_small]
      simp [digits.readMantissa_eq]
  | present known whole =>
      rw [lowered_letter known no_capital (whole.not_mem (by decide)), cutAt_append no_small]
      simp [digits.readMantissa_eq, readInteger_eq_some_iff.mpr whole]

theorem read_eq_some_iff : read text = some number ↔ number.Spells text :=
  ⟨.of_read, Spells.read_eq⟩

end Scientific

end Stencil
