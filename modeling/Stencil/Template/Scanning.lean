import Stencil.Template.Parsing

/-!
A template read character by character, without lexemes: at each place the next fragment is taken,
and literal fragments that touch are joined afterwards. The parser gives the same pieces and
diagnostics.
-/

namespace Stencil

/-- A part of a template as it is met: literal text, or a hole. -/
inductive Fragment
  | literal (text : List Char) (span : Span)
  | hole (hole : Hole)

structure Scanned where
  fragments : List Fragment
  diagnostics : List Diagnostic

namespace Scanned

def add (fragment : Fragment) (faults : List Diagnostic) (scanned : Scanned) : Scanned :=
  ⟨fragment :: scanned.fragments, faults ++ scanned.diagnostics⟩

end Scanned

/-- The fragment from an opening brace to the first closing one. -/
def scanFragment (content : List Char) (start : Nat) : Fragment × List Diagnostic :=
  let raw := '{' :: content ++ ['}']
  let span : Span := ⟨start, start + byteLength raw⟩
  match readHole content start with
  | .ok hole => (.hole hole, [])
  | .error fault => (.literal raw span, [⟨fault, span⟩])

def scan (place : Nat) : List Char → Scanned
  | [] => ⟨[], []⟩
  | '{' :: '{' :: rest => (scan (place + 2) rest).add (.literal ['{'] ⟨place, place + 2⟩) []
  | '}' :: '}' :: rest => (scan (place + 2) rest).add (.literal ['}'] ⟨place, place + 2⟩) []
  | '}' :: rest =>
      let span : Span := ⟨place, place + 1⟩
      (scan (place + 1) rest).add (.literal ['}'] span) [⟨.strayBrace, span⟩]
  | '{' :: rest =>
      match found : cutAt '}' rest with
      | (_, none) =>
          (scan (place + 1) rest).add (.literal ['{'] ⟨place, place + 1⟩)
            [⟨.unclosed, place, place + 1 + byteLength rest⟩]
      | (content, some after) =>
          have := length_lt_of_cutAt found
          let (fragment, faults) := scanFragment content place
          (scan (place + byteLength content + 2) after).add fragment faults
  | c :: rest =>
      let next := place + c.utf8Size
      (scan next rest).add (.literal [c] ⟨place, next⟩) []
  termination_by text => text.length
  decreasing_by all_goals simp_all <;> omega

def joined : List Fragment → List Piece
  | [] => []
  | .hole hole :: rest => .hole hole :: joined rest
  | .literal text span :: rest =>
      match joined rest with
      | .literal next :: pieces =>
          .literal ⟨String.ofList text ++ next.text, span.start, next.span.stop⟩ :: pieces
      | pieces => .literal ⟨String.ofList text, span⟩ :: pieces

def Scanned.parsed (scanned : Scanned) : Parsed :=
  ⟨joined scanned.fragments, scanned.diagnostics⟩

end Stencil
