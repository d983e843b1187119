import Stencil.Template.Scanning

namespace Stencil

def Fragment.piece : Fragment → Piece
  | literal text span => .literal ⟨String.ofList text, span⟩
  | hole h => .hole h

/-- Puts a piece in front. Two literals that meet become one. -/
def Piece.attach : Piece → List Piece → List Piece
  | .literal a, .literal b :: rest =>
      .literal ⟨a.text ++ b.text, a.span.start, b.span.stop⟩ :: rest
  | piece, rest => piece :: rest

namespace Piece

def Apart (a b : Piece) : Prop := a.hole?.isSome ∨ b.hole?.isSome

@[simp] theorem attach_nil (piece : Piece) : piece.attach [] = [piece] := by
  cases piece <;> rfl

@[simp] theorem attach_hole (hole : Hole) (rest : List Piece) :
    (Piece.hole hole).attach rest = .hole hole :: rest := by
  cases rest <;> rfl

theorem attach_cases (piece : Piece) (pieces : List Piece) :
    piece.attach pieces = piece :: pieces ∨
      ∃ a b rest, piece = literal a ∧ pieces = literal b :: rest ∧
        piece.attach pieces = literal ⟨a.text ++ b.text, a.span.start, b.span.stop⟩ :: rest := by
  cases piece with
  | hole h => exact .inl (attach_hole h pieces)
  | literal a =>
      cases pieces with
      | nil => exact .inl rfl
      | cons next rest =>
          cases next with
          | hole h => exact .inl rfl
          | literal b => exact .inr ⟨a, b, rest, rfl, rfl, rfl⟩

/-- Literals may be joined from the left or from the right. -/
theorem attach_attach (a b : Literal) (rest : List Piece) :
    (literal a).attach ((literal b).attach rest) =
      (literal ⟨a.text ++ b.text, a.span.start, b.span.stop⟩).attach rest := by
  cases rest with
  | nil => rfl
  | cons next more =>
      cases next with
      | literal c => simp [attach, String.append_assoc]
      | hole h => rfl

end Piece

theorem joined_cons (fragment : Fragment) (rest : List Fragment) :
    joined (fragment :: rest) = fragment.piece.attach (joined rest) := by
  cases fragment with
  | hole h => rw [joined, Fragment.piece, Piece.attach_hole]
  | literal text span =>
      rw [joined]
      cases joined rest with
      | nil => rfl
      | cons next more => cases next <;> rfl

namespace Parsed

def attach (piece : Piece) (parsed : Parsed) : Parsed :=
  ⟨piece.attach parsed.pieces, parsed.diagnostics⟩

@[simp] theorem report_nil (parsed : Parsed) : parsed.report [] = parsed := rfl

theorem report_report (a b : List Diagnostic) (parsed : Parsed) :
    (parsed.report b).report a = parsed.report (a ++ b) := by
  simp [report]

theorem attach_attach (a b : Literal) (parsed : Parsed) :
    (parsed.attach (.literal b)).attach (.literal a) =
      parsed.attach (.literal ⟨a.text ++ b.text, a.span.start, b.span.stop⟩) := by
  simp only [attach, Piece.attach_attach]

end Parsed

theorem Scanned.parsed_add (fragment : Fragment) (faults : List Diagnostic) (scanned : Scanned) :
    (scanned.add fragment faults).parsed =
      (scanned.parsed.attach fragment.piece).report faults := by
  simp only [parsed, add, joined_cons, Parsed.attach, Parsed.report]

def scanned (place : Nat) (text : List Char) : Parsed := (scan place text).parsed

theorem byteLength_opening (rest : List Char) :
    byteLength ('{' :: rest) = 1 + byteLength rest := rfl

theorem byteLength_closing (rest : List Char) :
    byteLength ('}' :: rest) = 1 + byteLength rest := rfl

theorem byteLength_braced (content : List Char) :
    byteLength ('{' :: content ++ ['}']) = byteLength content + 2 := by
  calc
    byteLength ('{' :: content ++ ['}']) = 1 + (byteLength content + 1) := by
      rw [List.cons_append, byteLength_opening, byteLength_append]
      rfl
    _ = byteLength content + 2 := by omega

def Avoids (mark : Char) (text : List Char) : Prop := text.head? ≠ some mark

@[simp] theorem avoids_nil (mark : Char) : Avoids mark [] := by simp [Avoids]

@[simp] theorem avoids_cons (mark c : Char) (rest : List Char) :
    Avoids mark (c :: rest) ↔ c ≠ mark := by simp [Avoids]

theorem avoids_append {mark other : Char} (different : other ≠ mark) (text rest : List Char) :
    Avoids mark (text ++ other :: rest) ↔ Avoids mark text := by
  cases text with
  | nil => simp [different]
  | cons c more => simp

theorem avoids_iff {mark : Char} {text : List Char} :
    Avoids mark text ↔ ∀ rest, text ≠ mark :: rest := by
  cases text with
  | nil => simp
  | cons c rest => simp

theorem scanned_nil (place : Nat) : scanned place [] = ⟨[], []⟩ := by
  rw [scanned, scan]
  rfl

theorem scanned_openPair (place : Nat) (rest : List Char) :
    scanned place ('{' :: '{' :: rest) =
      (scanned (place + 2) rest).attach (.literal ⟨String.ofList ['{'], place, place + 2⟩) := by
  rw [scanned, scan, Scanned.parsed_add]
  rfl

theorem scanned_closePair (place : Nat) (rest : List Char) :
    scanned place ('}' :: '}' :: rest) =
      (scanned (place + 2) rest).attach (.literal ⟨String.ofList ['}'], place, place + 2⟩) := by
  rw [scanned, scan, Scanned.parsed_add]
  rfl

theorem scanned_stray (place : Nat) (rest : List Char) (single : Avoids '}' rest) :
    scanned place ('}' :: rest) =
      ((scanned (place + 1) rest).attach (.literal ⟨String.ofList ['}'], place, place + 1⟩)).report
        [⟨.strayBrace, place, place + 1⟩] := by
  rw [scanned, scan, Scanned.parsed_add]
  · rfl
  · exact avoids_iff.mp single

theorem scanned_unclosed (place : Nat) (rest before : List Char) (single : Avoids '{' rest)
    (cut : cutAt '}' rest = (before, none)) :
    scanned place ('{' :: rest) =
      ((scanned (place + 1) rest).attach (.literal ⟨String.ofList ['{'], place, place + 1⟩)).report
        [⟨.unclosed, place, place + 1 + byteLength rest⟩] := by
  rw [scanned, scan]
  · split
    · rw [Scanned.parsed_add]
      rfl
    · next found =>
      rw [cut] at found
      cases found
  · exact avoids_iff.mp single

theorem scanned_fragment (place : Nat) (rest content after : List Char) (single : Avoids '{' rest)
    (cut : cutAt '}' rest = (content, some after)) :
    scanned place ('{' :: rest) =
      ((scanned (place + byteLength content + 2) after).attach
        (scanFragment content place).1.piece).report (scanFragment content place).2 := by
  rw [scanned, scan]
  · split
    · next found =>
      rw [cut] at found
      cases found
    · next found =>
      rw [cut] at found
      cases found
      rw [Scanned.parsed_add]
      rfl
  · exact avoids_iff.mp single

theorem scanned_braced (place : Nat) {content : List Char} (rest : List Char)
    (single : Avoids '{' content) (closed : '}' ∉ content) :
    scanned place (('{' :: content ++ ['}']) ++ rest) =
      ((scanned (place + byteLength ('{' :: content ++ ['}'])) rest).attach
        (scanFragment content place).1.piece).report (scanFragment content place).2 := by
  have ahead := (avoids_append (by decide : '}' ≠ '{') content rest).mpr single
  rw [List.append_assoc, List.cons_append, List.singleton_append, byteLength_braced,
    scanned_fragment place _ content rest ahead (cutAt_append closed rest), Nat.add_assoc]

theorem scanned_char (place : Nat) (c : Char) (rest : List Char) (opening : c ≠ '{')
    (closing : c ≠ '}') :
    scanned place (c :: rest) =
      (scanned (place + c.utf8Size) rest).attach
        (.literal ⟨String.ofList [c], place, place + c.utf8Size⟩) := by
  rw [scanned, scan]
  · rw [Scanned.parsed_add]
    rfl
  · intro more same
    exact absurd same opening
  · intro more same
    exact absurd same closing
  · exact closing
  · exact opening

/-- What one step takes at byte `place`: the characters `part`, with `rest` after them. It gives a
piece, and diagnostics if that piece is not what was meant. -/
inductive Takes (place : Nat) : List Char → List Char → Piece → List Diagnostic → Prop
  | openPair (rest : List Char) :
      Takes place ['{', '{'] rest (.literal ⟨String.ofList ['{'], place, place + 2⟩) []
  | closePair (rest : List Char) :
      Takes place ['}', '}'] rest (.literal ⟨String.ofList ['}'], place, place + 2⟩) []
  | stray {rest : List Char} (single : Avoids '}' rest) :
      Takes place ['}'] rest (.literal ⟨String.ofList ['}'], place, place + 1⟩)
        [⟨.strayBrace, place, place + 1⟩]
  | unclosed {rest : List Char} (single : Avoids '{' rest) (absent : '}' ∉ rest) :
      Takes place ['{'] rest (.literal ⟨String.ofList ['{'], place, place + 1⟩)
        [⟨.unclosed, place, place + 1 + byteLength rest⟩]
  | fault {content : List Char} {fault : Fault} (rest : List Char) (single : Avoids '{' content)
      (closed : '}' ∉ content) (read : readHole content place = .error fault) :
      Takes place ('{' :: content ++ ['}']) rest
        (.literal ⟨String.ofList ('{' :: content ++ ['}']), place,
          place + byteLength ('{' :: content ++ ['}'])⟩)
        [⟨fault, place, place + byteLength ('{' :: content ++ ['}'])⟩]
  | hole {content : List Char} {hole : Hole} (rest : List Char) (single : Avoids '{' content)
      (closed : '}' ∉ content) (read : readHole content place = .ok hole) :
      Takes place ('{' :: content ++ ['}']) rest (.hole hole) []
  | char {c : Char} (rest : List Char) (opening : c ≠ '{') (closing : c ≠ '}') :
      Takes place [c] rest (.literal ⟨String.ofList [c], place, place + c.utf8Size⟩) []

theorem Takes.part_ne_nil {place : Nat} {part rest : List Char} {piece : Piece}
    {faults : List Diagnostic} (takes : Takes place part rest piece faults) : part ≠ [] := by
  cases takes <;> simp

theorem Takes.scanned_eq {place : Nat} {part rest : List Char} {piece : Piece}
    {faults : List Diagnostic} (takes : Takes place part rest piece faults) :
    scanned place (part ++ rest) =
      ((scanned (place + byteLength part) rest).attach piece).report faults := by
  cases takes with
  | openPair => exact scanned_openPair place rest
  | closePair => exact scanned_closePair place rest
  | stray single => exact scanned_stray place rest single
  | unclosed single absent =>
      exact scanned_unclosed place rest rest single (cutAt_of_not_mem absent)
  | fault _ single closed read =>
      rw [scanned_braced place rest single closed, scanFragment, read]
      rfl
  | hole _ single closed read =>
      rw [scanned_braced place rest single closed, scanFragment, read]
      rfl
  | char _ opening closing => exact scanned_char place _ rest opening closing

theorem exists_takes (place : Nat) {text : List Char} (nonempty : text ≠ []) :
    ∃ part rest piece faults, text = part ++ rest ∧ Takes place part rest piece faults := by
  fun_cases lexemes text with
  | case1 => contradiction
  | case2 rest => exact ⟨_, rest, _, _, rfl, .openPair rest⟩
  | case3 rest => exact ⟨_, rest, _, _, rfl, .closePair rest⟩
  | case4 rest single =>
      have single : Avoids '{' rest := avoids_iff.mpr single
      cases cut : cutAt '}' rest with
      | mk content after =>
      cases after with
      | none => exact ⟨['{'], rest, _, _, rfl, .unclosed single (cutAt_eq_none cut).2⟩
      | some after =>
          rcases cutAt_eq_some cut with ⟨rfl, closed⟩
          have single := (avoids_append (by decide) content after).mp single
          have split : '{' :: (content ++ '}' :: after) = ('{' :: content ++ ['}']) ++ after := by
            simp
          cases read : readHole content place with
          | ok hole => exact ⟨_, after, _, _, split, .hole after single closed read⟩
          | error fault => exact ⟨_, after, _, _, split, .fault after single closed read⟩
  | case5 rest single => exact ⟨['}'], rest, _, _, rfl, .stray (avoids_iff.mpr single)⟩
  | case6 c rest _ _ opening closing => exact ⟨[c], rest, _, _, rfl, .char rest opening closing⟩

/-- What holds of no text, and is kept when a step is put in front, holds of each scanned text. -/
theorem scanned_induction {motive : Nat → List Char → Parsed → Prop}
    (nil : ∀ place, motive place [] ⟨[], []⟩)
    (step : ∀ {place : Nat} {part rest : List Char} {piece : Piece} {faults : List Diagnostic}
      {parsed : Parsed}, Takes place part rest piece faults →
        motive (place + byteLength part) rest parsed →
          motive place (part ++ rest) ((parsed.attach piece).report faults))
    (place : Nat) (text : List Char) : motive place text (scanned place text) := by
  -- A step takes one character or more, so the induction is on the length.
  induction length : text.length using Nat.strongRecOn generalizing place text with
  | ind n ih =>
  subst length
  by_cases nonempty : text = []
  · rw [nonempty, scanned_nil]
    exact nil place
  · rcases exists_takes place nonempty with ⟨part, rest, piece, faults, rfl, takes⟩
    have shorter : rest.length < (part ++ rest).length := by
      have := List.length_pos_iff.mpr takes.part_ne_nil
      rw [List.length_append]
      omega
    rw [takes.scanned_eq]
    exact step takes (ih _ shorter _ rest rfl)

end Stencil
