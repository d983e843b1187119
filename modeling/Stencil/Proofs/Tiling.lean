import Mathlib.Data.List.Chain
import Stencil.Proofs.Parsing
import Stencil.Proofs.Spelling

/-!
The pieces of a template lie in its text side by side, without a gap.
-/

namespace Stencil

namespace Piece

def Covers (part : List Char) : Piece → Prop
  | literal l => l.text ≠ "" ∧ l.length ≤ byteLength part
  | hole h => h.raw.toList = part

theorem covers_ofList {text part : List Char} (span : Span) (nonempty : text ≠ [])
    (short : byteLength text ≤ byteLength part) :
    (literal ⟨String.ofList text, span⟩).Covers part := by
  constructor
  · simpa using nonempty
  · rw [Literal.length, utf8ByteSize_ofList]
    exact short

end Piece

/-- The pieces stand for the parts of a text in order, the first of which begins at byte `place`. -/
inductive Tiles : Nat → List Char → List Piece → Prop
  | nil (place : Nat) : Tiles place [] []
  | cons {place : Nat} {part rest : List Char} {piece : Piece} {pieces : List Piece}
      (nonempty : part ≠ []) (span : piece.span = ⟨place, place + byteLength part⟩)
      (covers : piece.Covers part) (tiles : Tiles (place + byteLength part) rest pieces) :
      Tiles place (part ++ rest) (piece :: pieces)

theorem Hole.covers_of_readHole {content : List Char} {place : Nat} {hole : Hole}
    (closed : '}' ∉ content) (read : readHole content place = .ok hole) :
    (Piece.hole hole).span = ⟨place, place + byteLength ('{' :: content ++ ['}'])⟩ ∧
      (Piece.hole hole).Covers ('{' :: content ++ ['}']) := by
  rcases exists_spelling_of_readHole closed read with ⟨spelling, -, rfl, rfl⟩
  constructor
  · rw [Piece.span, Hole.span, Hole.length, Spelling.hole, utf8ByteSize_ofList]
  · exact String.toList_ofList

namespace Takes

variable {place : Nat} {part rest : List Char} {piece : Piece} {faults : List Diagnostic}

theorem span_eq (takes : Takes place part rest piece faults) :
    piece.span = ⟨place, place + byteLength part⟩ := by
  cases takes with
  | hole _ _ closed read => exact (Hole.covers_of_readHole closed read).1
  | openPair | closePair | stray | unclosed | fault | char => rfl

theorem covers (takes : Takes place part rest piece faults) : piece.Covers part := by
  cases takes with
  | hole _ _ closed read => exact (Hole.covers_of_readHole closed read).2
  | openPair => exact Piece.covers_ofList _ (List.cons_ne_nil '{' []) (by decide)
  | closePair => exact Piece.covers_ofList _ (List.cons_ne_nil '}' []) (by decide)
  | stray => exact Piece.covers_ofList _ (List.cons_ne_nil '}' []) (Nat.le_refl _)
  | unclosed => exact Piece.covers_ofList _ (List.cons_ne_nil '{' []) (Nat.le_refl _)
  | fault => exact Piece.covers_ofList _ (by simp) (Nat.le_refl _)
  | char => exact Piece.covers_ofList _ (by simp) (Nat.le_refl _)

end Takes

theorem Piece.covers_append {a b : Literal} {part next : List Char}
    (first : (literal a).Covers part) (second : (literal b).Covers next) (span : Span) :
    (literal ⟨a.text ++ b.text, span⟩).Covers (part ++ next) := by
  rcases first with ⟨nonempty, short⟩
  have rest : b.length ≤ byteLength next := second.2
  constructor
  · simp [nonempty]
  · calc
      (a.text ++ b.text).utf8ByteSize = a.length + b.length := String.utf8ByteSize_append
      _ ≤ byteLength part + byteLength next := Nat.add_le_add short rest
      _ = byteLength (part ++ next) := (byteLength_append part next).symm

/-- A piece put in front of a tiling gives a tiling, whether it is joined or not. -/
theorem Tiles.attach {place : Nat} {part rest : List Char} {piece : Piece} {pieces : List Piece}
    (nonempty : part ≠ []) (span : piece.span = ⟨place, place + byteLength part⟩)
    (covers : piece.Covers part) (tiles : Tiles (place + byteLength part) rest pieces) :
    Tiles place (part ++ rest) (piece.attach pieces) := by
  cases piece with
  | hole h =>
      rw [Piece.attach_hole]
      exact .cons nonempty span covers tiles
  | literal a =>
      cases tiles with
      | nil => exact .cons nonempty span covers (.nil _)
      | @cons _ next rest piece pieces filled after shown more =>
          cases piece with
          | hole h => exact .cons nonempty span covers (.cons filled after shown more)
          | literal b =>
              -- Two literals meet: the joined one stands for both parts.
              have size : place + byteLength part + byteLength next =
                  place + byteLength (part ++ next) := by
                rw [byteLength_append, Nat.add_assoc]
              have start : a.span.start = place := congrArg Span.start span
              have stop : b.span.stop = place + byteLength (part ++ next) := by
                rw [← size]
                exact congrArg Span.stop after
              have filled : part ++ next ≠ [] := by simp [nonempty]
              rw [size] at more
              rw [← List.append_assoc]
              apply Tiles.cons filled _ (Piece.covers_append covers shown _) more
              rw [Piece.span, start, stop]

theorem apart_attach (piece : Piece) {pieces : List Piece} (apart : pieces.IsChain Piece.Apart) :
    (piece.attach pieces).IsChain Piece.Apart := by
  cases piece with
  | hole h =>
      rw [Piece.attach_hole]
      apply List.isChain_cons.mpr
      refine ⟨?_, apart⟩
      intro next member
      exact .inl rfl
  | literal a =>
      cases pieces with
      | nil => exact .singleton _
      | cons next more =>
          cases next with
          | hole h => exact .cons_cons (.inr rfl) apart
          | literal b =>
              rcases List.isChain_cons.mp apart with ⟨first, rest⟩
              apply List.isChain_cons.mpr
              refine ⟨?_, rest⟩
              intro next member
              exact first next member

theorem tiles_scanned (place : Nat) (text : List Char) :
    Tiles place text (scanned place text).pieces := by
  induction place, text using scanned_induction with
  | nil place => exact .nil place
  | step takes tiles => exact .attach takes.part_ne_nil takes.span_eq takes.covers tiles

theorem apart_scanned (place : Nat) (text : List Char) :
    (scanned place text).pieces.IsChain Piece.Apart := by
  induction place, text using scanned_induction with
  | nil place => exact .nil
  | step takes apart => exact apart_attach _ apart

namespace Tiles

variable {place : Nat} {text : List Char} {pieces : List Piece}

theorem exists_part (tiles : Tiles place text pieces) {piece : Piece} (member : piece ∈ pieces) :
    ∃ before part after, text = before ++ part ++ after ∧ part ≠ [] ∧ piece.Covers part ∧
      piece.span = ⟨place + byteLength before, place + byteLength before + byteLength part⟩ := by
  induction tiles with
  | nil => contradiction
  | @cons place part rest first pieces nonempty span covers tiles ih =>
      rcases List.mem_cons.mp member with rfl | later
      · exact ⟨[], part, rest, rfl, nonempty, covers, span⟩
      · rcases ih later with ⟨before, inner, after, rfl, filled, shown, range⟩
        have split : part ++ (before ++ inner ++ after) = part ++ before ++ inner ++ after := by
          simp only [List.append_assoc]
        refine ⟨part ++ before, inner, after, split, filled, shown, ?_⟩
        rw [range, byteLength_append, ← Nat.add_assoc]

theorem start_head (tiles : Tiles place text pieces) {piece : Piece}
    (first : piece ∈ pieces.head?) : piece.start = place := by
  cases tiles with
  | nil => contradiction
  | cons nonempty span covers tiles =>
      rcases Option.some.inj first with rfl
      exact congrArg Span.start span

theorem contiguous (tiles : Tiles place text pieces) :
    pieces.IsChain fun a b => a.span.stop = b.span.start := by
  induction tiles with
  | nil => exact .nil
  | cons nonempty span covers tiles ih =>
      apply List.isChain_cons.mpr
      refine ⟨?_, ih⟩
      intro next first
      rw [span]
      exact (tiles.start_head first).symm

theorem stop_getLast (tiles : Tiles place text pieces) {piece : Piece}
    (last : piece ∈ pieces.getLast?) : piece.span.stop = place + byteLength text := by
  induction tiles with
  | nil => contradiction
  | @cons place part rest first pieces nonempty span covers tiles ih =>
      rw [byteLength_append, ← Nat.add_assoc]
      cases pieces with
      | nil =>
          rcases Option.some.inj last with rfl
          cases tiles
          exact congrArg Span.stop span
      | cons next more => exact ih (by simpa using last)

theorem eq_nil_iff (tiles : Tiles place text pieces) : pieces = [] ↔ text = [] := by
  cases tiles with
  | nil => simp
  | cons nonempty => simp [nonempty]

theorem wordSpan_eq (tiles : Tiles place text pieces)
    (small : place + byteLength text < UInt64.size) {piece : Piece} (member : piece ∈ pieces) :
    piece.wordSpan.span = piece.span := by
  rcases tiles.exists_part member with ⟨before, part, after, rfl, -, -, span⟩
  rw [byteLength_append, byteLength_append] at small
  cases piece with
  | literal l =>
      have start : l.span.start = place + byteLength before := congrArg Span.start span
      have stop : l.span.stop = place + byteLength before + byteLength part :=
        congrArg Span.stop span
      have first : (UInt64.ofNat l.span.start).toNat = l.span.start :=
        UInt64.toNat_ofNat_of_lt' (by omega)
      have last : (UInt64.ofNat l.span.stop).toNat = l.span.stop :=
        UInt64.toNat_ofNat_of_lt' (by omega)
      rw [Piece.wordSpan, WordSpan.span, first, last, Piece.span]
  | hole h =>
      have stop : h.start + h.length = place + byteLength before + byteLength part :=
        congrArg Span.stop span
      exact h.wordSpan_eq_span_iff.mpr (by omega)

end Tiles

theorem slice_append (before part after : List Char) :
    (⟨byteLength before, byteLength before + byteLength part⟩ : Span).slice
      (before ++ part ++ after) = part := by
  rw [Span.slice, List.append_assoc, dropBytes_append, Nat.add_sub_cancel_left, takeBytes_append]

theorem isValid_byteLength {text : String} {before after : List Char}
    (split : text.toList = before ++ after) :
    (⟨byteLength before⟩ : String.Pos.Raw).IsValid text := by
  apply String.Pos.Raw.isValid_iff_exists_append.mpr
  refine ⟨String.ofList before, String.ofList after, ?_, ?_⟩
  · rw [← String.ofList_append, ← split, String.ofList_toList]
  · apply String.Pos.Raw.ext
    exact (utf8ByteSize_ofList before).symm

theorem Template.tiles_parse (text : String) : Tiles 0 text.toList (parse text).pieces := by
  rw [pieces_parse]
  exact tiles_scanned 0 text.toList

/-- In a text whose length fits a word, the places of the pieces are the ones that are told. -/
theorem Template.wordSpan_parse {text : String} (small : text.utf8ByteSize < UInt64.size)
    {piece : Piece} (member : piece ∈ (parse text).pieces) : piece.wordSpan.span = piece.span := by
  apply (tiles_parse text).wordSpan_eq _ member
  rwa [Nat.zero_add, byteLength_toList]

/-- How the pieces of a template lie in its text. -/
structure Tiling (text : String) (pieces : List Piece) : Prop where
  first : ∀ piece ∈ pieces.head?, piece.span.start = 0
  next : pieces.IsChain fun a b => a.span.stop = b.span.start
  last : ∀ piece ∈ pieces.getLast?, piece.span.stop = text.utf8ByteSize
  nonempty : ∀ piece ∈ pieces, piece.span.start < piece.span.stop
  boundary : ∀ piece ∈ pieces, (⟨piece.span.start⟩ : String.Pos.Raw).IsValid text ∧
    (⟨piece.span.stop⟩ : String.Pos.Raw).IsValid text
  nil : pieces = [] ↔ text = ""
  apart : pieces.IsChain Piece.Apart
  literal : ∀ l, Piece.literal l ∈ pieces → l.text ≠ "" ∧ l.length ≤ l.span.stop - l.span.start
  hole : ∀ h, Piece.hole h ∈ pieces →
    h.raw.toList = h.span.slice text.toList ∧ h.length = h.span.stop - h.span.start

theorem Template.tiling_parse (text : String) : Tiling text (parse text).pieces := by
  have tiles := tiles_parse text
  have part {piece : Piece} (member : piece ∈ (parse text).pieces) :
      ∃ before part after, text.toList = before ++ part ++ after ∧ part ≠ [] ∧
        piece.Covers part ∧
        piece.span = ⟨byteLength before, byteLength before + byteLength part⟩ := by
    simpa only [Nat.zero_add] using tiles.exists_part member
  constructor
  · intro piece first
    exact tiles.start_head first
  · exact tiles.contiguous
  · intro piece last
    rw [tiles.stop_getLast last, Nat.zero_add, byteLength_toList]
  · intro piece member
    rcases part member with ⟨before, part, after, split, nonempty, covers, span⟩
    have size := byteLength_pos nonempty
    rw [span]
    exact Nat.lt_add_of_pos_right size
  · intro piece member
    rcases part member with ⟨before, part, after, split, nonempty, covers, span⟩
    rw [span]
    constructor
    · rw [List.append_assoc] at split
      exact isValid_byteLength split
    · rw [← byteLength_append]
      exact isValid_byteLength split
  · rw [tiles.eq_nil_iff, String.toList_eq_nil_iff]
  · rw [pieces_parse]
    exact apart_scanned 0 text.toList
  · intro l member
    rcases part member with ⟨before, part, after, split, nonempty, covers, span⟩
    have stop : l.span.stop - l.span.start = byteLength part := by
      rw [show l.span = _ from span, Nat.add_sub_cancel_left]
    rw [stop]
    exact covers
  · intro h member
    rcases part member with ⟨before, part, after, split, nonempty, covers, span⟩
    have place : h.span = ⟨byteLength before, byteLength before + byteLength part⟩ := span
    constructor
    · rw [place, split, slice_append]
      exact covers
    · rw [Hole.span, Nat.add_sub_cancel_left]

end Stencil
