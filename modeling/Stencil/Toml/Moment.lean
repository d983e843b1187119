import Stencil.Toml.Lexis

namespace Stencil.Toml

def isLeapYear (year : Nat) : Bool :=
  (year % 4 == 0 && year % 100 != 0) || year % 400 == 0

def daysInMonth (year month : Nat) : Nat :=
  if month = 2 then (if isLeapYear year then 29 else 28)
  else if month = 4 ∨ month = 6 ∨ month = 9 ∨ month = 11 then 30
  else 31

def fixedNumber (n least greatest : Nat) : Reader Nat := fun text => do
  let (number, rest) ← fixedDigits 10 n text
  if least ≤ number ∧ number ≤ greatest then some (number, rest) else none

def skipDate (text : List Char) : Option (List Char) := do
  let (year, rest) ← fixedNumber 4 0 9999 text
  let (month, rest) ← fixedNumber 2 1 12 (← expect ['-'] rest)
  let (_, rest) ← fixedNumber 2 1 (daysInMonth year month) (← expect ['-'] rest)
  return rest

def skipHourMinute (text : List Char) : Option (List Char) := do
  let (_, rest) ← fixedNumber 2 0 23 text
  let (_, rest) ← fixedNumber 2 0 59 (← expect [':'] rest)
  return rest

def skipFraction (text : List Char) : List Char :=
  match text with
  | '.' :: c :: rest => if c.isDigit then rest.dropWhile Char.isDigit else text
  | _ => text

def skipTime (text : List Char) : Option (List Char) := do
  let rest ← skipHourMinute text
  let (_, rest) ← fixedNumber 2 0 60 (← expect [':'] rest)
  return skipFraction rest

def skipOffset : List Char → Option (List Char)
  | 'Z' :: rest => some rest
  | 'z' :: rest => some rest
  | '+' :: rest => skipHourMinute rest
  | '-' :: rest => skipHourMinute rest
  | _ => none

def skipTimeOfDate (text : List Char) : List Char :=
  match text with
  | [] => []
  | c :: rest =>
      if c = 'T' || c = 't' || c = ' ' then
        match skipTime rest with
        | none => text
        | some rest => (skipOffset rest).getD rest
      else text

/-- A date, with a time or not, or a time alone. -/
def skipMoment (text : List Char) : Option (List Char) :=
  match skipDate text with
  | some rest => some (skipTimeOfDate rest)
  | none => skipTime text

end Stencil.Toml
