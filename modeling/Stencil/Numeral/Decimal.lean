namespace Stencil

def digits (n : Nat) : List Char := Nat.toDigits 10 n

def digitsValue (text : List Char) : Nat := Nat.ofDigitChars 10 text 0

def isDigits (text : List Char) : Bool := !text.isEmpty && text.all Char.isDigit

def signedDigits (n : Int) : List Char :=
  if n < 0 then '-' :: digits n.natAbs else digits n.natAbs

theorem digitsValue_digits (n : Nat) : digitsValue (digits n) = n :=
  Nat.ofDigitChars_ten_toDigits

theorem isDigits_digits (n : Nat) : isDigits (digits n) := by
  simp only [isDigits, digits, Bool.and_eq_true, Bool.not_eq_true', List.isEmpty_eq_false_iff,
    List.all_eq_true]
  exact ⟨Nat.toDigits_ne_nil, fun _ member =>
    Nat.isDigit_of_mem_toDigits (by decide) (by decide) member⟩

structure Decimal where
  integral : List Char
  fraction : List Char
  deriving DecidableEq

def lastDigits : Nat → Nat → List Char
  | 0, _ => []
  | places + 1, n => lastDigits places (n / 10) ++ [Nat.digitChar (n % 10)]

theorem length_lastDigits (places n : Nat) : (lastDigits places n).length = places := by
  induction places generalizing n with
  | zero => rfl
  | succ places ih => simp [lastDigits, ih]

def dropZerosEnd : List Char → List Char
  | [] => []
  | c :: rest =>
      match dropZerosEnd rest with
      | [] => if c = '0' then [] else [c]
      | kept => c :: kept

/-- The digits in groups of three, counted from the right. -/
def grouped (separator : List Char) : List Char → List Char
  | [] => []
  | c :: rest =>
      if rest ≠ [] ∧ rest.length % 3 = 0 then c :: separator ++ grouped separator rest
      else c :: grouped separator rest

namespace Decimal

/-- The number `n / 10 ^ places`, with all its places. -/
def ofScaled (n places : Nat) : Decimal :=
  ⟨digits (n / Nat.pow 10 places), lastDigits places n⟩

def trimmed (decimal : Decimal) : Decimal :=
  ⟨decimal.integral, dropZerosEnd decimal.fraction⟩

def isZero (decimal : Decimal) : Bool :=
  decimal.integral.all (· == '0') && decimal.fraction.all (· == '0')

end Decimal

end Stencil
