namespace Stencil

def splitLines : List Char → List (List Char)
  | [] => []
  | c :: rest =>
      if c = '\n' then [c] :: splitLines rest
      else
        match splitLines rest with
        | [] => [[c]]
        | line :: more => (c :: line) :: more

theorem flatten_splitLines (text : List Char) : (splitLines text).flatten = text := by
  induction text with
  | nil => rfl
  | cons c rest ih =>
      rw [splitLines]
      split
      · simp [ih]
      · split <;> simp_all

/-- A line by its number, the offset of its first character, and its text. -/
structure Line where
  number : Nat
  start : Nat
  text : List Char

/-- The last line that starts at or before an offset, the first of these lines being `first`. -/
def findLine (offset : Nat) (first : Line) : List (List Char) → Line
  | [] => first
  | text :: more =>
      let next := first.start + first.text.length
      if offset < next then first else findLine offset ⟨first.number + 1, next, text⟩ more

/-- The line of an offset in characters. Only a line feed ends a line. -/
def lineAt (offset : Nat) (text : List Char) : Line :=
  match splitLines text with
  | [] => ⟨1, 0, []⟩
  | line :: more => findLine offset ⟨1, 0, line⟩ more

end Stencil
