import Mathlib.Data.List.Chain
import Stencil.Proofs.Parsing
import Stencil.Proofs.Segments
import Stencil.Template.Grammar

namespace Stencil

namespace Hole

def written (hole : Hole) : Spelling :=
  ⟨hole.hint, hole.name.toList, hole.alignment.map fun a => signedDigits a.signed.toInt,
    hole.format.map String.toList⟩

theorem raw_respelled (hole : Hole) :
    hole.respelled.raw.toList = '{' :: hole.respelled.written.content ++ ['}'] := by
  rcases hole with ⟨name, raw, alignment, format, hint, start⟩
  cases alignment <;> cases format <;>
    simp [respelled, spelling, written, Spelling.content]

theorem respelled_foldl_set (directives : List Directive) {hole : Hole}
    (respelled : hole.respelled = hole) :
    (directives.foldl set hole).respelled = directives.foldl set hole := by
  induction directives generalizing hole with
  | nil => exact respelled
  | cons directive rest ih =>
      apply ih
      cases directive <;> rfl

/-- A hole made from its name by setting directives, all of which can be read again. -/
structure IsWritable (hole : Hole) : Prop where
  built : ∃ (start : UInt64) (directives : List Directive),
    hole = directives.foldl set (ofName hole.name start)
  name : isName hole.name.toList
  alignment : ∀ alignment ∈ hole.alignment, alignment.IsWritable
  format : ∀ format ∈ hole.format, format ≠ "" ∧ '}' ∉ format.toList

variable {hole : Hole}

theorem IsWritable.raw_eq (writable : hole.IsWritable) :
    hole.raw.toList = '{' :: hole.written.content ++ ['}'] := by
  rcases writable.built with ⟨start, directives, built⟩
  have respelled : hole.respelled = hole := by
    rw [built]
    exact respelled_foldl_set directives rfl
  rw [← respelled]
  exact raw_respelled hole

theorem IsWritable.written_isValid (writable : hole.IsWritable) : hole.written.IsValid := by
  refine ⟨writable.name, ?_, ?_⟩
  · intro text present
    rcases Option.map_eq_some_iff.mp present with ⟨alignment, given, rfl⟩
    apply (readAlignment_isSome_iff _).mp
    rw [Alignment.readAlignment_signedDigits (writable.alignment alignment given)]
    rfl
  · intro text present
    rcases Option.map_eq_some_iff.mp present with ⟨format, given, rfl⟩
    exact (writable.format format given).2

theorem IsWritable.hole_written (writable : hole.IsWritable) (place : Nat) :
    (hole.written.hole place == hole) = true := by
  have alignment : hole.written.alignment.bind readAlignment = hole.alignment := by
    cases given : hole.alignment with
    | none => simp [written, given]
    | some a =>
        have read := Alignment.readAlignment_signedDigits (writable.alignment a given)
        simp [written, given, read]
  have format : (hole.written.format.filter (!·.isEmpty)).map String.ofList = hole.format := by
    cases given : hole.format with
    | none => simp [written, given]
    | some f =>
        have nonempty : f.toList ≠ [] := by simpa using (writable.format f given).1
        simp [written, given, nonempty]
  have name : String.ofList hole.written.name = hole.name := String.ofList_toList
  have same : (hole.written.hole place == hole) =
      (String.ofList hole.written.name == hole.name &&
        hole.written.alignment.bind readAlignment == hole.alignment &&
        (hole.written.format.filter (!·.isEmpty)).map String.ofList == hole.format &&
        hole.hint == hole.hint) := rfl
  rw [same, name, alignment, format]
  simp

theorem IsWritable.takes (writable : hole.IsWritable) (place : Nat) (rest : List Char) :
    Takes place hole.raw.toList rest (.hole (hole.written.hole place)) [] := by
  have valid := writable.written_isValid
  rw [writable.raw_eq]
  exact .hole rest (Spelling.avoids_content valid) (Spelling.closing_not_mem_content valid)
    (Spelling.readHole_content valid place)

end Hole

theorem Piece.isSome_hole?_of_beq {a b : Piece} (alike : a == b) :
    a.hole?.isSome = b.hole?.isSome := by
  cases a with
  | literal l =>
      cases b with
      | literal => rfl
      | hole => contradiction
  | hole h =>
      cases b with
      | literal => contradiction
      | hole => rfl

theorem attach_beq {piece first : Piece} {pieces rest : List Piece} (alike : piece == first)
    (others : pieces == rest) (apart : ∀ next ∈ rest.head?, first.Apart next) :
    (piece.attach pieces == first :: rest) = true := by
  have separate : piece.attach pieces = piece :: pieces := by
    cases pieces with
    | nil => exact piece.attach_nil
    | cons a more =>
        cases rest with
        | nil => contradiction
        | cons b more =>
            -- Being apart is told by the kinds of the pieces, which are those of their likes.
            have same : a == b := (Bool.and_eq_true_iff.mp others).1
            have found := apart b rfl
            rw [Piece.Apart, ← Piece.isSome_hole?_of_beq alike,
              ← Piece.isSome_hole?_of_beq same] at found
            cases piece <;> cases a <;> simp_all [Piece.hole?, Piece.attach]
  rw [separate, List.cons_beq_cons, alike, others]
  rfl

theorem scanned_printed (place : Nat) {pieces : List Piece} (apart : pieces.IsChain Piece.Apart)
    (literals : ∀ l, Piece.literal l ∈ pieces → l.text ≠ "")
    (holes : ∀ h, Piece.hole h ∈ pieces → h.IsWritable) :
    (scanned place (pieces.flatMap Piece.source)).pieces == pieces ∧
      (scanned place (pieces.flatMap Piece.source)).diagnostics = [] := by
  induction pieces generalizing place with
  | nil => simp [scanned_nil]
  | cons piece rest ih =>
      rcases List.isChain_cons.mp apart with ⟨next, others⟩
      have filled : ∀ l, Piece.literal l ∈ rest → l.text ≠ "" := by
        intro l member
        exact literals l (List.mem_cons_of_mem _ member)
      have writables : ∀ h, Piece.hole h ∈ rest → h.IsWritable := by
        intro h member
        exact holes h (List.mem_cons_of_mem _ member)
      have later (place : Nat) := ih place others filled writables
      rw [List.flatMap_cons]
      cases piece with
      | literal l =>
          have nonempty : l.text.toList ≠ [] := by simpa using literals l List.mem_cons_self
          rw [Piece.source, scanned_doubled place _ nonempty]
          rcases later (place + byteLength (doubled l.text.toList)) with ⟨same, clean⟩
          have alike : (String.ofList l.text.toList == l.text) = true := by
            rw [String.ofList_toList, beq_self_eq_true]
          exact ⟨attach_beq alike same next, clean⟩
      | hole h =>
          have writable := holes h List.mem_cons_self
          rw [Piece.source, (writable.takes place _).scanned_eq]
          rcases later (place + byteLength h.raw.toList) with ⟨same, clean⟩
          have alike : (Piece.hole (h.written.hole place) == .hole h) = true :=
            writable.hole_written place
          exact ⟨attach_beq alike same next, clean⟩

/-- Printing and parsing give the same pieces again and no diagnostic, if no two literals touch,
none is empty, and the holes are made of directives that can be read. -/
theorem Template.parse_printed (pieces : List Piece) (apart : pieces.IsChain Piece.Apart)
    (literals : ∀ l, Piece.literal l ∈ pieces → l.text ≠ "")
    (holes : ∀ h, Piece.hole h ∈ pieces → h.IsWritable) :
    ((parse (printed pieces)).pieces == pieces) = true ∧ check (printed pieces) = [] := by
  rw [pieces_parse, check_eq_scanned, printed, String.toList_ofList]
  exact scanned_printed 0 apart literals holes

theorem Template.parse_printed_braces :
    let hole := [Hole.Directive.format (String.ofList ['{', ',', ':']),
      .alignment ⟨.left, 2147483648⟩, .hint .destructure].foldl Hole.set (Hole.ofName "a_1" 7)
    let pieces := [Piece.literal (.ofText (String.ofList ['}', '{', '{']) 0), .hole hole,
      .hole (.ofName "0" 3), .literal (.ofText (String.ofList ['}']) 9)]
    pieces.IsChain Piece.Apart ∧ hole.IsWritable ∧ (Hole.ofName "0" 3).IsWritable ∧
      ((parse (printed pieces)).pieces == pieces) = true ∧ check (printed pieces) = [] := by
  intro hole pieces
  have apart : pieces.IsChain Piece.Apart := by simp [pieces, Piece.Apart, Piece.hole?]
  have first : hole.IsWritable := by
    refine ⟨⟨7, _, rfl⟩, by decide +kernel, ?_, ?_⟩
    · simp [hole, Hole.set, Hole.respelled, Alignment.IsWritable]
    · simp [hole, Hole.set, Hole.respelled]
  have second : (Hole.ofName "0" 3).IsWritable :=
    ⟨⟨3, [], rfl⟩, by decide +kernel, by simp [Hole.ofName, Hole.respelled],
      by simp [Hole.ofName, Hole.respelled]⟩
  have literals : ∀ l, Piece.literal l ∈ pieces → l.text ≠ "" := by
    simp [pieces, Literal.ofText]
  have holes : ∀ h, Piece.hole h ∈ pieces → h.IsWritable := by
    simpa [pieces] using ⟨first, second⟩
  exact ⟨apart, first, second, parse_printed pieces apart literals holes⟩

end Stencil
