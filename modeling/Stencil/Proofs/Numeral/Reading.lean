import Stencil.Proofs.Numeral.Grammar

namespace Stencil

def signed (negative : Bool) (text : List Char) : List Char :=
  if negative then '-' :: text else text

def Decimal.text (decimal : Decimal) : List Char :=
  decimal.integral ++ if decimal.fraction.isEmpty then [] else '.' :: decimal.fraction

theorem isSigned_signed (negative : Bool) (text : List Char) :
    IsSigned text negative (signed negative text) := by
  cases negative with
  | true => exact .minus
  | false => exact .bare

theorem signedDigits_eq (n : Int) : signedDigits n = signed (n < 0) (digits n.natAbs) := by
  simp [signedDigits, signed]

theorem splitSign_signed (negative : Bool) {first : Char} (rest : List Char)
    (digit : first.isDigit) :
    splitSign (signed negative (first :: rest)) = (negative, first :: rest) :=
  (isSigned_signed negative _).splitSign_eq (not_sign_of_isDigit digit)

theorem isWhole_signed (negative : Bool) {text : List Char} (decimal : isDigits text) :
    IsWhole (signed negative text)
      (if negative then -(digitsValue text : Int) else digitsValue text) := by
  cases negative with
  | true => exact .negated decimal .minus
  | false => exact .nonnegative decimal .bare

theorem readInteger_signedDigits (n : Int) : readInteger (signedDigits n) = some n := by
  rw [signedDigits_eq, readInteger_eq_some_iff.mpr (isWhole_signed _ (isDigits_digits _)),
    digitsValue_digits]
  congr 1
  simp only [decide_eq_true_eq]
  split <;> omega

namespace Decimal

variable {decimal : Decimal} (plain : decimal.IsPlain)
include plain

theorem IsPlain.exists_text_eq : ∃ first rest, decimal.text = first :: rest ∧ first.isDigit := by
  rcases exists_cons_of_isDigits plain.integral.digits with ⟨first, rest, split, digit⟩
  rw [text, split]
  exact ⟨first, _, rfl, digit⟩

theorem IsPlain.isMantissa_text :
    IsMantissa decimal.text decimal.integral decimal.fraction := by
  rw [text]
  split
  · next empty =>
      rw [List.isEmpty_iff.mp empty, List.append_nil]
      exact .whole plain.integral.digits
  · exact .pointed plain.integral.digits plain.fraction

theorem IsPlain.isDigits_text_iff : isDigits decimal.text ↔ decimal.fraction = [] := by
  rw [text]
  constructor
  · intro all_digits
    by_contra present
    rw [if_neg (mt List.isEmpty_iff.mp present)] at all_digits
    have point := isDigit_of_mem_isDigits all_digits
      (List.mem_append_right decimal.integral List.mem_cons_self)
    exact absurd point (by decide)
  · intro empty
    rw [empty, List.isEmpty_nil, if_pos rfl, List.append_nil]
    exact plain.integral.digits

end Decimal

namespace Scientific

theorem read_signed (negative : Bool) {decimal : Decimal} (plain : decimal.IsPlain) :
    read (signed negative decimal.text) =
      some ⟨negative, decimal.integral, decimal.fraction, 0⟩ := by
  have sign : IsSigned (decimal.text ++ []) negative (signed negative decimal.text) := by
    rw [List.append_nil]
    exact isSigned_signed negative decimal.text
  exact read_eq_some_iff.mpr ⟨plain.isMantissa_text, .absent, sign⟩

end Scientific

end Stencil
