import Mathlib.Data.Nat.Digits.Lemmas
import Stencil.Proofs.Numeral.Digits
import Stencil.Template.Basic

namespace Stencil

def decimalDigits : List Char := "0123456789".toList

/-- One or more decimal digits that stand for `n`. There may be zeros in front. -/
structure IsDecimal (text : List Char) (n : ℕ) : Prop where
  present : text ≠ []
  digits : ∀ c ∈ text, c ∈ decimalDigits
  value : Nat.ofDigits 10 (text.reverse.map decimalDigits.idxOf) = n

theorem mem_decimalDigits_iff {c : Char} : c ∈ decimalDigits ↔ c.isDigit := by
  constructor
  · intro member
    have all : decimalDigits.all Char.isDigit := by decide
    exact List.all_eq_true.mp all c member
  · intro digit
    rcases Char.isDigit_iff_toNat.mp digit with ⟨least, greatest⟩
    have least : 48 ≤ c.toNat := least
    have greatest : c.toNat ≤ 57 := greatest
    have small : c.toNat - 48 < 10 := by omega
    have same : (c.toNat - 48).digitChar = c := by
      rw [← Char.toNat_inj, Nat.toNat_digitChar_of_lt_ten small]
      omega
    have all : ∀ d : Fin 10, d.val.digitChar ∈ decimalDigits := by decide
    exact same ▸ all ⟨c.toNat - 48, small⟩

theorem digitsValue_singleton {c : Char} (digit : c ∈ decimalDigits) :
    digitsValue [c] = decimalDigits.idxOf c := by
  have all : decimalDigits.all fun c => digitsValue [c] == decimalDigits.idxOf c := by decide
  exact eq_of_beq (List.all_eq_true.mp all c digit)

theorem digitsValue_eq_ofDigits {text : List Char} (digits : ∀ c ∈ text, c ∈ decimalDigits) :
    digitsValue text = Nat.ofDigits 10 (text.reverse.map decimalDigits.idxOf) := by
  induction text with
  | nil => rfl
  | cons c rest ih =>
      rcases List.forall_mem_cons.mp digits with ⟨first, others⟩
      calc
        digitsValue (c :: rest) = digitsValue [c] * 10 ^ rest.length + digitsValue rest :=
          digitsValue_append [c] rest
        _ = Nat.ofDigits 10 (rest.reverse.map decimalDigits.idxOf)
            + 10 ^ rest.length * decimalDigits.idxOf c := by
          rw [digitsValue_singleton first, ih others, Nat.mul_comm, Nat.add_comm]
        _ = Nat.ofDigits 10 ((c :: rest).reverse.map decimalDigits.idxOf) := by
          rw [List.map_reverse, List.map_reverse, List.map_cons, Nat.ofDigits_reverse_cons,
            List.length_map]

theorem isDecimal_iff {text : List Char} {n : ℕ} :
    IsDecimal text n ↔ isDigits text ∧ digitsValue text = n := by
  rw [isDigits_iff]
  constructor
  · rintro ⟨present, digits, value⟩
    refine ⟨⟨present, ?_⟩, ?_⟩
    · intro c member
      exact mem_decimalDigits_iff.mp (digits c member)
    · rw [digitsValue_eq_ofDigits digits, value]
  · rintro ⟨⟨present, digits⟩, value⟩
    have digits : ∀ c ∈ text, c ∈ decimalDigits := by
      intro c member
      exact mem_decimalDigits_iff.mpr (digits c member)
    exact ⟨present, digits, (digitsValue_eq_ofDigits digits).symm.trans value⟩

theorem IsDecimal.unique {text : List Char} {m n : ℕ} (first : IsDecimal text m)
    (second : IsDecimal text n) : m = n := first.value.symm.trans second.value

theorem Hole.index_eq_some_iff {hole : Hole} {index : UInt64} :
    hole.index = some index ↔ IsDecimal hole.name.toList index.toNat := by
  rw [Hole.index, isDecimal_iff]
  simp only [Bool.and_eq_true, decide_eq_true_eq, Option.ite_none_right_eq_some, Option.some.injEq]
  constructor
  · rintro ⟨⟨decimal, small⟩, rfl⟩
    exact ⟨decimal, (UInt64.toNat_ofNat_of_lt' small).symm⟩
  · rintro ⟨decimal, value⟩
    rw [value, UInt64.ofNat_toNat]
    exact ⟨⟨decimal, index.toNat_lt⟩, rfl⟩

theorem Hole.isPositional_iff {hole : Hole} :
    hole.isPositional ↔ ∃ n < 2 ^ 64, IsDecimal hole.name.toList n := by
  rw [isPositional, Option.isSome_iff_exists]
  constructor
  · rintro ⟨index, found⟩
    exact ⟨index.toNat, index.toNat_lt, index_eq_some_iff.mp found⟩
  · rintro ⟨n, small, decimal⟩
    have value : (UInt64.ofNat n).toNat = n := UInt64.toNat_ofNat_of_lt' small
    exact ⟨UInt64.ofNat n, index_eq_some_iff.mpr (value.symm ▸ decimal)⟩

namespace Template

theorem isPositional_iff {template : Template} :
    template.isPositional ↔
      template.holes ≠ [] ∧ ∀ hole ∈ template.holes, hole.isPositional := by
  simp [isPositional]

theorem positional_ne_nil_iff {template : Template} :
    template.positional ≠ [] ↔ template.isPositional := by
  rw [positional]
  split
  · next all => simp [all, (isPositional_iff.mp all).1]
  · next named => simp [named]

theorem named_eq_nil_or (template : Template) :
    template.named = [] ∧ template.positional = template.holes ∨
      template.positional = [] ∧ template.named = template.holes := by
  rw [named, positional]
  split
  · exact .inl ⟨rfl, rfl⟩
  · exact .inr ⟨rfl, rfl⟩

theorem isPositional_of_mem {template : Template} {hole : Hole}
    (member : hole ∈ template.positional) : hole.isPositional := by
  have all := isPositional_iff.mp (positional_ne_nil_iff.mp (List.ne_nil_of_mem member))
  rcases template.named_eq_nil_or with ⟨-, whole⟩ | ⟨none, -⟩
  · exact all.2 hole (whole ▸ member)
  · rw [none] at member
    cases member

/-- A template, parsed or made from pieces, gives all its holes in order either by name or by
position, and none the other way. They go by position if there are any, and the name of each is a
number in decimal digits below `2 ^ 64`; that number is then its index. -/
theorem given_by_name_or_position (template : Template) :
    (template.named = [] ∧ template.positional = template.holes ∨
        template.positional = [] ∧ template.named = template.holes) ∧
      (template.positional ≠ [] ↔ template.holes ≠ [] ∧
        ∀ hole ∈ template.holes, ∃ n < 2 ^ 64, IsDecimal hole.name.toList n) ∧
      ∀ hole ∈ template.positional, ∃ index, hole.index = some index ∧
        ∀ n, IsDecimal hole.name.toList n ↔ n = index.toNat := by
  refine ⟨template.named_eq_nil_or, ?_, ?_⟩
  · rw [positional_ne_nil_iff, isPositional_iff]
    simp only [Hole.isPositional_iff]
  · intro hole member
    rcases Option.isSome_iff_exists.mp (isPositional_of_mem member) with ⟨index, found⟩
    have decimal := Hole.index_eq_some_iff.mp found
    refine ⟨index, found, ?_⟩
    intro n
    constructor
    · intro also
      exact also.unique decimal
    · rintro rfl
      exact decimal

/-- Zeros in front count for nothing. A number too large, or a digit that is not of ASCII, makes all
holes named ones. -/
example :
    let texts := ["\x7b007\x7d \x7b18446744073709551615\x7d", "\x7b18446744073709551616\x7d",
      "\x7b0\x7d \x7b٣\x7d"]
    texts.map (fun text => (parse text).positional.map (·.index)) =
        [[some 7, some 18446744073709551615], [], []] ∧
      texts.map (fun text => (parse text).named.length) = [0, 1, 2] := by
  decide +kernel

end Template

end Stencil
