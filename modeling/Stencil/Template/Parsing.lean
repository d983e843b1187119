import Stencil.Hole.Reading
import Stencil.Lexeme
import Stencil.Piece

/-!
Parsing a template from its lexemes. A hole reaches from an opening brace to the first closing
one. What is no hole stays literal text and is diagnosed, and parsing goes on.

A hole that ends in a doubled brace takes only the first brace of the pair. The second one is then
unread: it pairs with a brace that follows it, and is stray otherwise.
-/

namespace Stencil

structure Parsed where
  pieces : List Piece
  diagnostics : List Diagnostic

namespace Parsed

def report (diagnostics : List Diagnostic) (parsed : Parsed) : Parsed :=
  ⟨parsed.pieces, diagnostics ++ parsed.diagnostics⟩

def follow (pieces : List Piece) (parsed : Parsed) : Parsed :=
  ⟨pieces ++ parsed.pieces, parsed.diagnostics⟩

end Parsed

structure Run where
  text : String
  span : Span

/-- `half` says that the second brace of a pair is still unread; `offset` is then its place, and the
place of the next lexeme otherwise. -/
structure Progress where
  offset : Nat
  half : Bool
  run : Option Run

namespace Progress

def take (progress : Progress) (text : List Char) (size : Nat) : Progress :=
  let stop := progress.offset + size
  { progress with
    offset := stop
    run := some <| match progress.run with
      | none => ⟨String.ofList text, progress.offset, stop⟩
      | some run => ⟨run.text ++ String.ofList text, run.span.start, stop⟩ }

def literal (progress : Progress) : List Piece :=
  progress.run.toList.map fun run => .literal ⟨run.text, run.span⟩

def stray (progress : Progress) : Diagnostic :=
  ⟨.strayBrace, progress.offset, progress.offset + 1⟩

/-- Takes an unread brace as literal text, before a lexeme that does not pair with it. -/
def settle (progress : Progress) : Progress :=
  if progress.half then { progress.take ['}'] 1 with half := false } else progress

def settled (progress : Progress) : List Diagnostic :=
  if progress.half then [progress.stray] else []

end Progress

/-- The text up to the first closing brace, whether that brace is one of a pair, and the lexemes
after it. -/
def upToClose : List Lexeme → Option (List Char × Bool × List Lexeme)
  | [] => none
  | .closing :: rest => some ([], false, rest)
  | .closePair :: rest => some ([], true, rest)
  | lexeme :: rest =>
      (upToClose rest).map fun (text, pair, after) => (lexeme.source ++ text, pair, after)

theorem length_upToClose {lexemes after : List Lexeme} {text : List Char} {pair : Bool}
    (found : upToClose lexemes = some (text, pair, after)) : after.length < lexemes.length := by
  fun_induction upToClose lexemes generalizing text with
  | case1 => contradiction
  | case2 | case3 => simp_all
  | case4 lexeme rest _ _ ih =>
      obtain ⟨⟨inner, close, remaining⟩, more, same⟩ := Option.map_eq_some_iff.mp found
      obtain ⟨-, rfl, rfl⟩ := by simpa using same
      have := ih more
      simp only [List.length_cons]
      omega

def parseLexemes (size : Nat) (progress : Progress) : List Lexeme → Parsed
  | [] => ⟨progress.settle.literal, progress.settled⟩
  | .closePair :: rest => parseLexemes size (progress.take ['}'] 2) rest
  | .closing :: rest =>
      if progress.half then parseLexemes size { progress.take ['}'] 2 with half := false } rest
      else (parseLexemes size (progress.take ['}'] 1) rest).report [progress.stray]
  | .text run :: rest =>
      (parseLexemes size (progress.settle.take run (byteLength run)) rest).report progress.settled
  | .openPair :: rest =>
      (parseLexemes size (progress.settle.take ['{'] 2) rest).report progress.settled
  | .opening :: rest =>
      let here := progress.settle
      match found : upToClose rest with
      | none =>
          (parseLexemes size (here.take ['{'] 1) rest).report
            (progress.settled ++ [⟨.unclosed, here.offset, size⟩])
      | some (content, pair, after) =>
          let raw := '{' :: content ++ ['}']
          let stop := here.offset + byteLength raw
          have := length_upToClose found
          match readHole content here.offset with
          | .ok hole =>
              ((parseLexemes size ⟨stop, pair, none⟩ after).follow
                (here.literal ++ [.hole hole])).report progress.settled
          | .error fault =>
              (parseLexemes size { here.take raw (byteLength raw) with half := pair } after).report
                (progress.settled ++ [⟨fault, here.offset, stop⟩])
  termination_by lexemes => lexemes.length

def parse (text : List Char) : Parsed :=
  parseLexemes (byteLength text) ⟨0, false, none⟩ (lexemes text)

end Stencil
