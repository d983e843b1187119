import Stencil.Numeral.Decimal
import Stencil.Value.Format

/-!
What written numbers look like: numerals, groups of digits, symbols between them, and the formats
that ask for a number of digits.
-/

namespace Stencil

/-- Decimal digits, at least one, and no zero in front of others. -/
structure IsNumeral (text : List Char) : Prop where
  digits : isDigits text
  plain : text.head? = some '0' → text = ['0']

namespace Decimal

structure IsPlain (decimal : Decimal) : Prop where
  integral : IsNumeral decimal.integral
  fraction : ∀ c ∈ decimal.fraction, c.isDigit

def unscaled (decimal : Decimal) : Nat := digitsValue (decimal.integral ++ decimal.fraction)

end Decimal

/-- Integral digits are written all together, or in groups of three counted from the right, of
which only the first may be shorter. -/
inductive Splits : Bool → List Char → List (List Char) → Prop
  | whole (text : List Char) : Splits false text [text]
  | groups {first : List Char} {others : List (List Char)} (present : first ≠ [])
      (short : first.length ≤ 3) (full : ∀ group ∈ others, group.length = 3) :
      Splits true (first ++ others.flatten) (first :: others)

/-- A number with these symbols: its sign, its integral digits in parts, and the point in front of
its fraction, if it has one. -/
def Symbols.layOut (symbols : Symbols) (negative : Bool) (parts : List (List Char))
    (fraction : List Char) : String :=
  (if negative then symbols.minus else "")
    ++ symbols.separator.intercalate (parts.map String.ofList)
    ++ (if fraction.isEmpty then "" else symbols.point ++ String.ofList fraction)

def IsSpecifier (letters : List Char) (count : Nat) (format : String) : Prop :=
  ∃ letter text, format.toList = letter :: text ∧ letter ∈ letters ∧
    isDigits text ∧ text.length ≤ 2 ∧ digitsValue text = count

/-- One of these letters, and behind it a width in at most two digits. The letter alone asks for the
width zero. -/
def AsksWidth (letters : List Char) (width : Nat) (format : String) : Prop :=
  ∃ letter text, format.toList = letter :: text ∧ letter ∈ letters ∧
    (∀ c ∈ text, c.isDigit) ∧ text.length ≤ 2 ∧ digitsValue text = width

end Stencil
