import Stencil.Numeral.Exact
import Stencil.Numeral.Scientific

namespace Stencil

inductive IsSigned (text : List Char) : Bool → List Char → Prop
  | bare : IsSigned text false text
  | plus : IsSigned text false ('+' :: text)
  | minus : IsSigned text true ('-' :: text)

inductive IsWhole : List Char → Int → Prop
  | nonnegative {magnitude text : List Char} (decimal : isDigits magnitude)
      (spelled : IsSigned magnitude false text) : IsWhole text (digitsValue magnitude)
  | negated {magnitude text : List Char} (decimal : isDigits magnitude)
      (spelled : IsSigned magnitude true text) : IsWhole text (-digitsValue magnitude)

/-- Digits; digits and a point, behind which there may be others; or a point and digits. -/
inductive IsMantissa : List Char → List Char → List Char → Prop
  | whole {integral : List Char} (decimal : isDigits integral) : IsMantissa integral integral []
  | pointed {integral fraction : List Char} (decimal : isDigits integral)
      (others : ∀ c ∈ fraction, c.isDigit) :
      IsMantissa (integral ++ '.' :: fraction) integral fraction
  | bare {fraction : List Char} (decimal : isDigits fraction) :
      IsMantissa ('.' :: fraction) [] fraction

/-- A letter and a whole number, or nothing, which stands for zero. -/
inductive IsExponent : List Char → Int → Prop
  | absent : IsExponent [] 0
  | present {letter : Char} {text : List Char} {exponent : Int} (known : letter ∈ ['e', 'E'])
      (whole : IsWhole text exponent) : IsExponent (letter :: text) exponent

namespace Scientific

inductive Spells (number : Scientific) (text : List Char) : Prop
  | intro {mantissa exponent : List Char}
      (digits : IsMantissa mantissa number.integral number.fraction)
      (scale : IsExponent exponent number.exponent)
      (sign : IsSigned (mantissa ++ exponent) number.negative text)

def value (number : Scientific) : ℚ :=
  let size : ℚ := digitsValue (number.integral ++ number.fraction) *
    10 ^ (number.exponent - number.fraction.length : ℤ)
  if number.negative then -size else size

end Scientific

/-- The text denotes a number that is rounded to this double. Zero has the sign of the text. -/
def Double.IsDenotedBy (x : Double) (text : List Char) : Prop :=
  ∃ number : Scientific, number.Spells text ∧ x.IsNearest number.value ∧
    x.isNegative = number.negative

end Stencil
