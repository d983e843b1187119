import Stencil.Text.Span

/-!
A template is cut into lexemes first: doubled braces, single braces, and the runs of text between
them. Nothing is lost, and a doubled brace wins over two single ones.
-/

namespace Stencil

inductive Lexeme
  | openPair
  | closePair
  | opening
  | closing
  | text (run : List Char)
  deriving DecidableEq

def Lexeme.source : Lexeme → List Char
  | openPair => ['{', '{']
  | closePair => ['}', '}']
  | opening => ['{']
  | closing => ['}']
  | text run => run

/-- Puts a character that is no brace in front: it joins the run of text that follows. -/
def Lexeme.consText (c : Char) : List Lexeme → List Lexeme
  | .text run :: rest => .text (c :: run) :: rest
  | rest => .text [c] :: rest

def lexemes : List Char → List Lexeme
  | [] => []
  | '{' :: '{' :: rest => .openPair :: lexemes rest
  | '}' :: '}' :: rest => .closePair :: lexemes rest
  | '{' :: rest => .opening :: lexemes rest
  | '}' :: rest => .closing :: lexemes rest
  | c :: rest => Lexeme.consText c (lexemes rest)

/-- Each lexeme with the bytes it covers, the first one beginning at `start`. -/
def placed (start : Nat) : List Lexeme → List (Lexeme × Span)
  | [] => []
  | lexeme :: rest =>
      let stop := start + byteLength lexeme.source
      (lexeme, ⟨start, stop⟩) :: placed stop rest

theorem Lexeme.source_consText (c : Char) (rest : List Lexeme) :
    (consText c rest).flatMap source = c :: rest.flatMap source := by
  unfold consText
  split <;> simp [source]

theorem flatMap_source_lexemes (text : List Char) :
    (lexemes text).flatMap Lexeme.source = text := by
  fun_induction lexemes text <;> simp_all [Lexeme.source, Lexeme.source_consText]

end Stencil
