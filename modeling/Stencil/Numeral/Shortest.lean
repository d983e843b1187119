import Stencil.Numeral.Decimal
import Stencil.Numeral.Double

/-!
The shortest decimal text of a double: of the decimals that read back as the number, those with the
fewest digits, and of these the nearest. Such a decimal never needs more than 324 places, so all
candidates are whole multiples of `10 ^ -324`.
-/

namespace Stencil

def shortestPlaces : Nat := 324

/-- The decimal `n / 10 ^ shortestPlaces` is nearest to this magnitude. The middle between two
magnitudes belongs to the even one. -/
def readsAs (magnitude n : Nat) : Bool :=
  let number := 2 * n * unitsPerOne
  let low := (units (magnitude - 1) + units magnitude) * Nat.pow 10 shortestPlaces
  let high := (units magnitude + units (magnitude + 1)) * Nat.pow 10 shortestPlaces
  if magnitude % 2 = 0 then low ≤ number && number ≤ high else low < number && number < high

/-- Of the two multiples of `step` next to the number, the one that reads as it. If both do, the
nearer one counts, and of two equally near ones the greater. -/
def candidate (magnitude step : Nat) : Option Nat :=
  let exact := units magnitude * Nat.pow 10 shortestPlaces
  let below := exact / unitsPerOne / step * step
  let above := below + step
  match readsAs magnitude below, readsAs magnitude above with
  | true, true => if 2 * exact < (below + above) * unitsPerOne then some below else some above
  | true, false => some below
  | false, true => some above
  | false, false => none

def shortestFrom (magnitude : Nat) : Nat → Nat
  | 0 => (candidate magnitude 1).getD 0
  | exponent + 1 =>
      match candidate magnitude (Nat.pow 10 (exponent + 1)) with
      | some n => n
      | none => shortestFrom magnitude exponent

def shortest (magnitude : Nat) : Decimal :=
  if magnitude = 0 then ⟨['0'], []⟩
  else
    (Decimal.ofScaled (shortestFrom magnitude (309 + shortestPlaces)) shortestPlaces).trimmed

end Stencil
