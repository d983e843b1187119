namespace Stencil.Toml

abbrev Reader (α : Type) := List Char → Option (α × List Char)

def isSpace (c : Char) : Bool := c == ' ' || c == '\t'

def isVisible (c : Char) : Bool := c == '\t' || (0x20 ≤ c.toNat && c.toNat != 0x7f)

def skipSpaces (text : List Char) : List Char := text.dropWhile isSpace

def newline? : List Char → Option (List Char)
  | '\n' :: rest => some rest
  | '\r' :: '\n' :: rest => some rest
  | _ => none

def lineEnd? (text : List Char) : Option (List Char) :=
  let rest :=
    match skipSpaces text with
    | '#' :: comment => comment.dropWhile isVisible
    | rest => rest
  if rest.isEmpty then some [] else newline? rest

/-- Skips spaces, line breaks, and comments, `comment` telling whether one has begun. -/
def skipLines (comment : Bool) : List Char → List Char
  | [] => []
  | '\r' :: '\n' :: rest => skipLines false rest
  | c :: rest =>
      if c = '\n' then skipLines false rest
      else if comment && isVisible c then skipLines true rest
      else if isSpace c then skipLines false rest
      else if c = '#' then skipLines true rest
      else c :: rest

/-- The value of a digit. What is no digit in any base up to sixteen has the value sixteen. -/
def digitValue (c : Char) : Nat :=
  if c.isDigit then c.toNat - '0'.toNat
  else if 'a' ≤ c ∧ c ≤ 'f' then c.toNat - 'a'.toNat + 10
  else if 'A' ≤ c ∧ c ≤ 'F' then c.toNat - 'A'.toNat + 10
  else 16

def isDigitIn (base : Nat) (c : Char) : Bool := digitValue c < base

def valueIn (base : Nat) (digits : List Char) : Nat :=
  digits.foldl (fun n c => base * n + digitValue c) 0

/-- The digits after the first one. An underscore may stand between two of them. -/
def moreDigits (base : Nat) : List Char → List Char × List Char
  | '_' :: c :: rest =>
      if isDigitIn base c then
        match moreDigits base rest with
        | (digits, rest) => (c :: digits, rest)
      else ([], '_' :: c :: rest)
  | c :: rest =>
      if isDigitIn base c then
        match moreDigits base rest with
        | (digits, rest) => (c :: digits, rest)
      else ([], c :: rest)
  | [] => ([], [])

def digitRun (base : Nat) : Reader (List Char)
  | [] => none
  | c :: rest =>
      if isDigitIn base c then
        match moreDigits base rest with
        | (digits, rest) => some (c :: digits, rest)
      else none

def fixedDigits (base n : Nat) (text : List Char) : Option (Nat × List Char) :=
  if (text.take n).length = n ∧ (text.take n).all (isDigitIn base) then
    some (valueIn base (text.take n), text.drop n)
  else none

theorem length_fixedDigits {base n value : Nat} {text rest : List Char}
    (read : fixedDigits base n text = some (value, rest)) : rest.length ≤ text.length := by
  unfold fixedDigits at read
  split at read
  · obtain ⟨-, rfl⟩ := by simpa using read
    simp
  · contradiction

def expect (wanted text : List Char) : Option (List Char) := wanted.isPrefixOf? text

end Stencil.Toml
