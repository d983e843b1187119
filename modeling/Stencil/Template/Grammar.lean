import Stencil.Piece
import Stencil.Template.Scanning

/-!
Writing pieces as a template, and the grammar of templates without faults. Such a template is a
sequence of segments: runs of text that hold no brace, doubled braces, and holes. What each of them
is parsed as does not depend on the others.
-/

namespace Stencil

def doubled : List Char → List Char
  | [] => []
  | c :: rest => if c = '{' ∨ c = '}' then c :: c :: doubled rest else c :: doubled rest

def Piece.source : Piece → List Char
  | literal l => doubled l.text.toList
  | hole h => h.raw.toList

def printed (pieces : List Piece) : String := String.ofList (pieces.flatMap Piece.source)

theorem doubled_append (a b : List Char) : doubled (a ++ b) = doubled a ++ doubled b := by
  induction a with
  | nil => rfl
  | cons c rest ih => by_cases brace : c = '{' ∨ c = '}' <;> simp [doubled, brace, ih]

structure Spelling where
  hint : Hint
  name : List Char
  alignment : Option (List Char)
  format : Option (List Char)
  deriving DecidableEq

/-- A decimal number, negative or not, that fits a signed word of 32 bits and is not zero. -/
def IsAlignment (text : List Char) : Prop :=
  (isDigits text ∧ 0 < digitsValue text ∧ digitsValue text < 2147483648) ∨
    ∃ magnitude, text = '-' :: magnitude ∧
      isDigits magnitude ∧ 0 < digitsValue magnitude ∧ digitsValue magnitude ≤ 2147483648

namespace Spelling

def content (spelling : Spelling) : List Char :=
  spelling.hint.sigil.toList ++ spelling.name
    ++ (spelling.alignment.elim [] fun text => ',' :: text)
    ++ (spelling.format.elim [] fun text => ':' :: text)

structure IsValid (spelling : Spelling) : Prop where
  name : isName spelling.name
  alignment : ∀ text ∈ spelling.alignment, IsAlignment text
  format : ∀ text ∈ spelling.format, '}' ∉ text

/-- The hole that is written so. An empty format is none. -/
def hole (spelling : Spelling) (start : Nat) : Hole where
  name := String.ofList spelling.name
  raw := String.ofList ('{' :: spelling.content ++ ['}'])
  alignment := spelling.alignment.bind readAlignment
  format := (spelling.format.filter (!·.isEmpty)).map String.ofList
  hint := spelling.hint
  start

end Spelling

inductive Segment
  | text (run : List Char)
  | openPair
  | closePair
  | hole (spelling : Spelling)
  deriving DecidableEq

namespace Segment

def source : Segment → List Char
  | text run => run
  | openPair => ['{', '{']
  | closePair => ['}', '}']
  | hole spelling => '{' :: spelling.content ++ ['}']

def IsValid : Segment → Prop
  | text run => run ≠ [] ∧ '{' ∉ run ∧ '}' ∉ run
  | openPair => True
  | closePair => True
  | hole spelling => spelling.IsValid

def fragment (place : Nat) : Segment → Fragment
  | text run => .literal run ⟨place, place + byteLength run⟩
  | openPair => .literal ['{'] ⟨place, place + 2⟩
  | closePair => .literal ['}'] ⟨place, place + 2⟩
  | hole spelling => .hole (spelling.hole place)

end Segment

def fragments (place : Nat) : List Segment → List Fragment
  | [] => []
  | segment :: rest =>
      segment.fragment place :: fragments (place + byteLength segment.source) rest

end Stencil
