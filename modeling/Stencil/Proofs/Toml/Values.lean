import Stencil.Proofs.Numeral.Reading
import Stencil.Toml.Document

/-!
A text in quotes and the digits of a number, at the end of a line, are read as the value they spell.
-/

namespace Stencil.Toml

section

variable (places n : Nat)

def codeDigits : Nat → Nat → List Char
  | 0, _ => []
  | places + 1, n => codeDigits places (n / 16) ++ [Nat.digitChar (n % 16)]

theorem length_codeDigits : (codeDigits places n).length = places := by
  induction places generalizing n with
  | zero => rfl
  | succ places ih => simp [codeDigits, ih]

theorem digitValue_digitChar {d : Nat} (small : d < 16) : digitValue d.digitChar = d := by
  have all : ∀ d : Fin 16, digitValue d.val.digitChar = d := by decide
  exact all ⟨d, small⟩

theorem isDigitIn_of_mem_codeDigits : ∀ c ∈ codeDigits places n, isDigitIn 16 c := by
  induction places generalizing n with
  | zero => nofun
  | succ places ih =>
      intro c member
      rcases List.mem_append.mp member with earlier | last
      · exact ih (n / 16) c earlier
      · have small : n % 16 < 16 := Nat.mod_lt n (by decide)
        rw [List.mem_singleton.mp last, isDigitIn, digitValue_digitChar small]
        exact decide_eq_true small

theorem valueIn_concat (base : Nat) (text : List Char) (c : Char) :
    valueIn base (text ++ [c]) = base * valueIn base text + digitValue c := by
  rw [valueIn, List.foldl_append]
  rfl

theorem valueIn_codeDigits : valueIn 16 (codeDigits places n) = n % 16 ^ places := by
  induction places generalizing n with
  | zero => rw [Nat.pow_zero, Nat.mod_one]; rfl
  | succ places ih =>
      rw [codeDigits, valueIn_concat, ih, digitValue_digitChar (Nat.mod_lt n (by decide)),
        Nat.pow_succ', Nat.mod_mul, Nat.add_comm]

end

def spelledChar (c : Char) : List Char :=
  if isVisible c ∧ c ≠ '"' ∧ c ≠ '\\' then [c] else '\\' :: 'U' :: codeDigits 8 c.toNat

/-- A text in quotes, its invisible characters, quotes and backslashes by their numbers. -/
def spelledText (text : List Char) : List Char := '"' :: text.flatMap spelledChar ++ ['"']

theorem numberedChar_codeDigits (c : Char) (rest : List Char) :
    numberedChar 8 (codeDigits 8 c.toNat ++ rest) = some (c, rest) := by
  have length := length_codeDigits 8 c.toNat
  have digits : (codeDigits 8 c.toNat).all (isDigitIn 16) :=
    List.all_eq_true.mpr (isDigitIn_of_mem_codeDigits 8 c.toNat)
  have small : c.toNat < 16 ^ 8 := Nat.lt_of_lt_of_le c.val.toNat_lt (by decide)
  have value : valueIn 16 (codeDigits 8 c.toNat) = c.toNat := by
    rw [valueIn_codeDigits, Nat.mod_eq_of_lt small]
  have read : fixedDigits 16 8 (codeDigits 8 c.toNat ++ rest) = some (c.toNat, rest) := by
    rw [fixedDigits, List.take_left' length, List.drop_left' length, value]
    exact if_pos ⟨length, digits⟩
  have valid : c.toNat.isValidChar := c.valid
  rw [numberedChar, read]
  dsimp only
  rw [if_pos valid, Char.ofNat_toNat]

theorem lineString_spelledChar (c : Char) (rest : List Char) :
    lineString (spelledChar c ++ rest) = prepend c (lineString rest) := by
  rw [spelledChar]
  split
  · next plain =>
      rcases plain with ⟨visible, unquoted, unescaped⟩
      rw [List.singleton_append, lineString]
      · exact if_pos visible
      · exact unquoted
      · exact unescaped
  · have escape : escape? ('U' :: codeDigits 8 c.toNat ++ rest) = some (c, rest) :=
      numberedChar_codeDigits c rest
    rw [List.cons_append, lineString]
    split
    · next absent => rw [escape] at absent; cases absent
    · next other after present =>
        rw [escape] at present
        cases present
        rfl

theorem lineString_spelled (text rest : List Char) :
    lineString (text.flatMap spelledChar ++ '"' :: rest) = some (text, rest) := by
  induction text with
  | nil => rw [List.flatMap_nil, List.nil_append, lineString]
  | cons c more ih =>
      rw [List.flatMap_cons, List.append_assoc, lineString_spelledChar, ih]
      rfl

theorem expect_ne {wanted first : Char} (other : wanted ≠ first) (more rest : List Char) :
    expect (wanted :: more) (first :: rest) = none := if_neg fun same => other (eq_of_beq same)

theorem expect_second_ne {quote first : Char} (other : quote ≠ first) (more rest : List Char) :
    expect (quote :: quote :: more) (quote :: first :: rest) = none :=
  (if_pos (beq_self_eq_true quote)).trans (expect_ne other more rest)

theorem quotedText_spelledText (text : List Char) {c : Char} (other : c ≠ '"') (rest : List Char) :
    quotedText (spelledText text ++ c :: rest) = some (text, c :: rest) := by
  -- A text may be empty, but its two quotes are not the first two of three.
  have double : expect (blockQuotes '"') (spelledText text ++ c :: rest) = none := by
    cases text with
    | nil => exact expect_second_ne other.symm _ _
    | cons first more =>
        rw [spelledText, List.flatMap_cons, spelledChar]
        split
        · next plain => exact expect_second_ne plain.2.1.symm _ _
        · rfl
  have single : expect (blockQuotes singleQuote) (spelledText text ++ c :: rest) = none := rfl
  rw [quotedText, double, single]
  dsimp only
  rw [spelledText, List.cons_append, List.cons_append, quotedLine, if_pos rfl, List.append_assoc]
  exact lineString_spelled text (c :: rest)

theorem isDigitIn_of_isDigit {c : Char} (digit : c.isDigit) : isDigitIn 10 c := by
  rcases Char.isDigit_iff_toNat.mp digit with ⟨least, greatest⟩
  have small : c.toNat - '0'.toNat < 10 :=
    Nat.lt_succ_of_le (Nat.sub_le_sub_right greatest '0'.toNat)
  rw [isDigitIn, digitValue, if_pos digit]
  exact decide_eq_true small

section

variable {text : List Char} (rest : List Char)

theorem fixedDigits_line {places value : Nat} {after : List Char}
    (read : fixedDigits 10 places (text ++ '\n' :: rest) = some (value, after)) :
    after = text.drop places ++ '\n' :: rest := by
  unfold fixedDigits at read
  split at read
  · next taken =>
      cases read
      apply List.drop_append_of_le_length
      by_contra short
      have member : '\n' ∈ (text ++ '\n' :: rest).take places := by
        rw [List.take_append, List.take_cons (by omega)]
        simp
      exact absurd (List.all_eq_true.mp taken.2 _ member) (by decide)
  · cases read

theorem fixedNumber_line {places least greatest value : Nat} {after : List Char}
    (read : fixedNumber places least greatest (text ++ '\n' :: rest) = some (value, after)) :
    after = text.drop places ++ '\n' :: rest := by
  rcases Option.bind_eq_some_iff.mp read with ⟨⟨number, behind⟩, digits, inside⟩
  dsimp only at inside
  split at inside
  · cases inside
    exact fixedDigits_line rest digits
  · cases inside

variable (decimal : ∀ c ∈ text, c.isDigit)
include decimal

theorem moreDigits_line : moreDigits 10 (text ++ '\n' :: rest) = (text, '\n' :: rest) := by
  induction text with
  | nil => rfl
  | cons c more ih =>
      rcases List.forall_mem_cons.mp decimal with ⟨digit, others⟩
      have underscore : c ≠ '_' := by rintro rfl; cases digit
      rw [List.cons_append, moreDigits, if_pos (isDigitIn_of_isDigit digit), ih others]
      exact fun _ _ same => absurd same underscore

theorem expect_line {c : Char} (other : ¬ c.isDigit) (apart : c ≠ '\n') (places : Nat) :
    expect [c] (text.drop places ++ '\n' :: rest) = none := by
  cases part : text.drop places with
  | nil => exact expect_ne apart [] rest
  | cons first more =>
      have member : first ∈ text := List.mem_of_mem_drop (part ▸ List.mem_cons_self)
      have different : c ≠ first := by
        rintro rfl
        exact other (decimal c member)
      exact expect_ne different [] _

theorem skipMoment_line : skipMoment (text ++ '\n' :: rest) = none := by
  have date : skipDate (text ++ '\n' :: rest) = none := by
    apply Option.bind_eq_none_iff.mpr
    rintro ⟨year, after⟩ read
    rw [fixedNumber_line rest read]
    dsimp only
    rw [expect_line rest decimal (by decide) (by decide)]
    rfl
  have time : skipTime (text ++ '\n' :: rest) = none := by
    have minutes : skipHourMinute (text ++ '\n' :: rest) = none := by
      apply Option.bind_eq_none_iff.mpr
      rintro ⟨hour, after⟩ read
      rw [fixedNumber_line rest read]
      dsimp only
      rw [expect_line rest decimal (by decide) (by decide)]
      rfl
    rw [skipTime, minutes]
    rfl
  rw [skipMoment, date]
  exact time

end

section

variable {first : Char} (digit : first.isDigit) (rest : List Char)
include digit

theorem sign?_digit : sign? (first :: rest) = ([], first :: rest) := by
  rw [sign?]
  · rintro rest ⟨⟩
    cases digit
  · rintro rest ⟨⟩
    cases digit

theorem quotedText_digit : quotedText (first :: rest) = none := by
  have double : '"' ≠ first := by rintro rfl; cases digit
  have single : singleQuote ≠ first := by rintro rfl; cases digit
  have blocks : expect (blockQuotes '"') (first :: rest) = none := expect_ne double _ rest
  have raw : expect (blockQuotes singleQuote) (first :: rest) = none := expect_ne single _ rest
  rw [quotedText, blocks, raw]
  dsimp only
  rw [quotedLine, if_neg double.symm, if_neg single.symm]

theorem special?_digit : special? (first :: rest) = none := by
  have infinity : 'i' ≠ first := by rintro rfl; cases digit
  have nan : 'n' ≠ first := by rintro rfl; cases digit
  have infinite : expect "inf".toList (first :: rest) = none := expect_ne infinity _ rest
  have invalid : expect "nan".toList (first :: rest) = none := expect_ne nan _ rest
  rw [special?, sign?_digit digit]
  dsimp only
  rw [infinite, invalid]

end

theorem digits_of_first_zero {n : Nat} {rest more : List Char}
    (same : digits n ++ rest = '0' :: more) : digits n = ['0'] := by
  have numeral := isNumeral_digits n
  rcases exists_cons_of_isDigits numeral.digits with ⟨first, others, split, -⟩
  rw [split] at same
  apply numeral.plain
  rw [split, (List.cons.inj same).1]
  rfl

theorem wholeText_digits (n : Nat) (rest : List Char) :
    wholeText (digits n ++ '\n' :: rest) = some (digits n, '\n' :: rest) := by
  have decimal := (isDigits_iff.mp (isDigits_digits n)).2
  rcases exists_cons_of_isDigits (isDigits_digits n) with ⟨first, more, split, digit⟩
  have unsigned : sign? (digits n ++ '\n' :: rest) = ([], digits n ++ '\n' :: rest) := by
    rw [split]
    exact sign?_digit digit _
  have run : digitRun 10 (digits n ++ '\n' :: rest) = some (digits n, '\n' :: rest) := by
    rw [split] at decimal ⊢
    rcases List.forall_mem_cons.mp decimal with ⟨-, others⟩
    rw [List.cons_append, digitRun, if_pos (isDigitIn_of_isDigit digit),
      moreDigits_line rest others]
  rw [wholeText, unsigned]
  split
  · next same =>
      rcases Prod.mk.inj same with ⟨rfl, zero⟩
      have only := digits_of_first_zero zero
      rw [only] at zero ⊢
      cases zero
      rfl
  · next same =>
      cases same
      rw [run]
      rfl

theorem integer?_digits {n : Nat} (word : n ≤ 9223372036854775807) (rest : List Char) :
    integer? (digits n ++ '\n' :: rest) = some ((n : Int), '\n' :: rest) := by
  have read : readInteger (digits n) = some (n : Int) := readInteger_signedDigits n
  have fits : isWord n := by
    have least : Int64.minValue.toInt ≤ n := Int.le_trans (by decide) (Int.natCast_nonneg n)
    have greatest : n ≤ Int64.maxValue.toInt := Int.ofNat_le.mpr word
    rw [isWord, decide_eq_true least, decide_eq_true greatest]
    rfl
  -- A zero is the whole number, so that no letter for another base is behind it.
  have behind {c : Char} {more : List Char} (same : digits n ++ '\n' :: rest = '0' :: c :: more) :
      c = '\n' := by
    rw [digits_of_first_zero same] at same
    cases same
    rfl
  unfold integer?
  split
  case h_1 same | h_2 same | h_3 same => cases behind same
  case h_4 =>
    rw [wholeText_digits]
    dsimp only [Option.bind_eq_bind, Option.bind_some]
    rw [read, Option.bind_some, if_pos fits]

theorem simpleValue_digits {n : Nat} (word : n ≤ 9223372036854775807) (rest : List Char) :
    simpleValue (digits n ++ '\n' :: rest) = some (.integer n, '\n' :: rest) := by
  have moment := skipMoment_line rest (isDigits_iff.mp (isDigits_digits n)).2
  have float : float? (digits n ++ '\n' :: rest) = none := by
    rw [float?, wholeText_digits]
    rfl
  have integer := integer?_digits word rest
  rcases exists_cons_of_isDigits (isDigits_digits n) with ⟨first, more, split, digit⟩
  rw [split, List.cons_append] at moment float integer ⊢
  rw [simpleValue, quotedText_digit digit, moment, float, special?_digit digit, integer]
  rfl

theorem simpleValue_spelledText (value rest : List Char) :
    simpleValue (spelledText value ++ '\n' :: rest) =
      some (.text (String.ofList value), '\n' :: rest) := by
  rw [simpleValue, quotedText_spelledText value (by decide)]
  rfl

end Stencil.Toml
