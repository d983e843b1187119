import Mathlib.Data.List.Chain
import Stencil.Proofs.Output
import Stencil.Proofs.Segments
import Stencil.Proofs.Tiling

namespace Stencil

namespace Piece

/-- The piece as it is read where it is printed at byte `place`. -/
def moveTo (place : Nat) : Piece → Piece
  | literal l => literal ⟨l.text, place, place + byteLength (doubled l.text.toList)⟩
  | hole h => hole { h with start := place }

theorem isSome_hole?_moveTo (place : Nat) (piece : Piece) :
    (piece.moveTo place).hole?.isSome = piece.hole?.isSome := by
  cases piece <;> rfl

theorem text_moveTo (place : Nat) (piece : Piece) : (piece.moveTo place).text = piece.text := by
  cases piece <;> rfl

theorem source_moveTo (place : Nat) (piece : Piece) :
    (piece.moveTo place).source = piece.source := by
  cases piece <;> rfl

theorem emission_moveTo (properties : Properties) (symbols : Symbols) (place : Nat)
    (piece : Piece) :
    (piece.moveTo place).emission properties symbols = piece.emission properties symbols := by
  cases piece <;> rfl

theorem moveTo_beq (place : Nat) (piece : Piece) : (piece.moveTo place == piece) = true := by
  cases piece with
  | literal l => exact beq_self_eq_true l.text
  | hole h =>
      have same : (Piece.moveTo place (.hole h) == .hole h) =
          (h.name == h.name && h.alignment == h.alignment && h.format == h.format
            && h.hint == h.hint) := rfl
      rw [same]
      simp

/-- Some text, or a hole that is what its raw text is read as. -/
def IsReadable : Piece → Prop
  | literal l => l.text ≠ ""
  | hole h => ∃ spelling : Spelling, spelling.IsValid ∧ h = spelling.hole h.start

theorem IsReadable.scanned_source {piece : Piece} (readable : piece.IsReadable) (place : Nat)
    (rest : List Char) :
    scanned place (piece.source ++ rest) =
      (scanned (place + byteLength piece.source) rest).attach (piece.moveTo place) := by
  cases piece with
  | literal l =>
      have nonempty : l.text.toList ≠ [] := mt String.toList_eq_nil_iff.mp readable
      have doubled := scanned_doubled place rest nonempty
      rw [String.ofList_toList] at doubled
      exact doubled
  | hole h =>
      rcases readable with ⟨spelling, valid, same⟩
      have valid : (Segment.hole spelling).IsValid := valid
      have source : (Piece.hole h).source = (Segment.hole spelling).source := by
        rw [same]
        exact String.toList_ofList
      have moved : (Piece.hole h).moveTo place = .hole (spelling.hole place) := by
        rw [same]
        rfl
      rw [source, moved]
      exact Segment.scanned_eq place valid rest

theorem attach_of_apart {piece : Piece} {pieces : List Piece}
    (apart : ∀ next ∈ pieces.head?, piece.Apart next) : piece.attach pieces = piece :: pieces := by
  rcases piece.attach_cases pieces with separate | ⟨a, b, rest, rfl, rfl, -⟩
  · exact separate
  · rcases apart (literal b) rfl with never | never <;> cases never

theorem isReadable_attach {piece : Piece} {pieces : List Piece} (first : piece.IsReadable)
    (others : ∀ next ∈ pieces, next.IsReadable) :
    ∀ next ∈ piece.attach pieces, next.IsReadable := by
  rcases piece.attach_cases pieces with separate | ⟨a, b, rest, rfl, rfl, joined⟩
  · rw [separate]
    exact List.forall_mem_cons.mpr ⟨first, others⟩
  · rw [joined]
    have nonempty : a.text ≠ "" := first
    have filled : a.text ++ b.text ≠ "" := by simp [nonempty]
    exact List.forall_mem_cons.mpr ⟨filled, (List.forall_mem_cons.mp others).2⟩

end Piece

def relocated (place : Nat) : List Piece → List Piece
  | [] => []
  | piece :: rest => piece.moveTo place :: relocated (place + byteLength piece.source) rest

theorem map_relocated {α : Type} {f : Piece → α}
    (same : ∀ place piece, f (piece.moveTo place) = f piece) (place : Nat)
    (pieces : List Piece) : (relocated place pieces).map f = pieces.map f := by
  induction pieces generalizing place with
  | nil => rfl
  | cons piece rest ih => rw [relocated, List.map_cons, List.map_cons, same, ih]

theorem flatMap_relocated {α : Type} {f : Piece → List α}
    (same : ∀ place piece, f (piece.moveTo place) = f piece) (place : Nat)
    (pieces : List Piece) : (relocated place pieces).flatMap f = pieces.flatMap f := by
  rw [List.flatMap_def, List.flatMap_def, map_relocated same]

theorem relocated_beq (place : Nat) (pieces : List Piece) :
    (relocated place pieces == pieces) = true := by
  induction pieces generalizing place with
  | nil => rfl
  | cons piece rest ih => rw [relocated, List.cons_beq_cons, piece.moveTo_beq, ih, Bool.and_self]

theorem apart_relocated {piece : Piece} {pieces : List Piece} (place other : Nat)
    (apart : ∀ next ∈ pieces.head?, piece.Apart next) :
    ∀ next ∈ (relocated other pieces).head?, (piece.moveTo place).Apart next := by
  intro next member
  cases pieces with
  | nil => cases member
  | cons first rest =>
      rcases Option.some.inj member with rfl
      rw [Piece.Apart, Piece.isSome_hole?_moveTo, Piece.isSome_hole?_moveTo]
      exact apart first rfl

theorem scanned_sources (place : Nat) {pieces : List Piece} (apart : pieces.IsChain Piece.Apart)
    (readable : ∀ piece ∈ pieces, piece.IsReadable) :
    scanned place (pieces.flatMap Piece.source) = ⟨relocated place pieces, []⟩ := by
  induction pieces generalizing place with
  | nil => exact scanned_nil place
  | cons piece rest ih =>
      rcases List.isChain_cons.mp apart with ⟨next, apart⟩
      rcases List.forall_mem_cons.mp readable with ⟨first, others⟩
      have separate := Piece.attach_of_apart
        (apart_relocated place (place + byteLength piece.source) next)
      rw [List.flatMap_cons, first.scanned_source, ih _ apart others, Parsed.attach, separate]
      rfl

/-- The literal text that a step takes is not empty, and a hole is read from its own raw text. -/
theorem Takes.isReadable {place : Nat} {part rest : List Char} {piece : Piece}
    {faults : List Diagnostic} (takes : Takes place part rest piece faults) :
    piece.IsReadable := by
  have covers := takes.covers
  cases takes with
  | hole _ _ closed read =>
      rcases exists_spelling_of_readHole closed read with ⟨spelling, valid, -, rfl⟩
      exact ⟨spelling, valid, rfl⟩
  | openPair | closePair | stray | unclosed | fault | char => exact covers.1

theorem isReadable_scanned (place : Nat) (text : List Char) :
    ∀ piece ∈ (scanned place text).pieces, piece.IsReadable := by
  induction place, text using scanned_induction with
  | nil => simp
  | step takes readable => exact Piece.isReadable_attach takes.isReadable readable

theorem scanned_printed_scanned (place : Nat) (text : List Char) :
    scanned place ((scanned 0 text).pieces.flatMap Piece.source) =
      ⟨relocated place (scanned 0 text).pieces, []⟩ :=
  scanned_sources place (apart_scanned 0 text) (isReadable_scanned 0 text)

/-- Whatever a text is parsed as, printed, has no fault and is parsed as the same pieces with the
same raw texts. It is printed as itself again, and rendered as the text is. -/
theorem Template.parse_printed_parse (text : String) :
    let clean := printed (parse text).pieces
    check clean = [] ∧
      ((parse clean).pieces == (parse text).pieces) = true ∧
      (parse clean).pieces.map Piece.text = (parse text).pieces.map Piece.text ∧
      printed (parse clean).pieces = clean ∧
      ∀ (properties : Properties) (symbols : Symbols) (sink : Sink),
        (parse clean).render properties symbols sink =
          (parse text).render properties symbols sink := by
  intro clean
  have whole : scanned 0 clean.toList = ⟨relocated 0 (parse text).pieces, []⟩ := by
    calc
      scanned 0 clean.toList = scanned 0 ((parse text).pieces.flatMap Piece.source) :=
        congrArg (scanned 0) String.toList_ofList
      _ = ⟨relocated 0 (parse text).pieces, []⟩ := by
        rw [pieces_parse]
        exact scanned_printed_scanned 0 text.toList
  have pieces : (parse clean).pieces = relocated 0 (parse text).pieces := by
    rw [pieces_parse clean, whole]
  refine ⟨?_, ?_, ?_, ?_, ?_⟩
  · rw [check_eq_scanned, whole]
  · rw [pieces]
    exact relocated_beq 0 _
  · rw [pieces]
    exact map_relocated Piece.text_moveTo 0 _
  · rw [pieces]
    exact congrArg String.ofList (flatMap_relocated Piece.source_moveTo 0 _)
  · intro properties symbols sink
    have same := flatMap_relocated (Piece.emission_moveTo properties symbols) 0
      (parse text).pieces
    rw [render, render, emission, emission, pieces, same]

/-- Of the three braces behind the hole, the first one closes it also in the clean text. -/
example :
    printed (Template.parse "\x7d\x7bA\x7d\x7d\x7b").pieces =
      "\x7d\x7d\x7bA\x7d\x7d\x7d\x7b\x7b" := by decide +kernel

end Stencil
