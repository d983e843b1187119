import Stencil.Proofs.Scanning
import Stencil.Proofs.Spelling
import Stencil.Template.Grammar

namespace Stencil

namespace Spelling

variable {spelling : Spelling}

theorem avoids_content (valid : spelling.IsValid) : Avoids '{' spelling.content := by
  have absent := no_mark_of_isName valid.name (isNameChar_mark '{' (by simp))
  rcases spelling with ⟨hint, name, alignment, format⟩
  cases name with
  | nil => exact absurd rfl (ne_nil_of_isName valid.name)
  | cons c rest =>
      have other : c ≠ '{' := by
        intro same
        apply absent
        rw [same]
        exact List.mem_cons_self
      cases hint with
      | plain => simp [content, Hint.sigil, other]
      | stringify | destructure => simp [content, Hint.sigil]

theorem closing_not_mem_content (valid : spelling.IsValid) : '}' ∉ spelling.content := by
  have name := no_mark_of_isName valid.name (isNameChar_mark '}' (by simp))
  have alignment : ∀ text ∈ spelling.alignment, '}' ∉ text := by
    intro text present
    exact (valid.alignment text present).no_mark (by decide) (by decide)
  have format : ∀ text ∈ spelling.format, '}' ∉ text := valid.format
  rcases spelling with ⟨hint, _, _ | _, _ | _⟩ <;> cases hint <;>
    simp_all [content, Hint.sigil]

end Spelling

theorem scanned_doubled_char (place : Nat) (c : Char) (rest : List Char) :
    scanned place (doubled [c] ++ rest) =
      (scanned (place + byteLength (doubled [c])) rest).attach
        (.literal ⟨String.ofList [c], place, place + byteLength (doubled [c])⟩) := by
  by_cases brace : c = '{' ∨ c = '}'
  · rcases brace with rfl | rfl
    · exact scanned_openPair place rest
    · exact scanned_closePair place rest
  · rcases not_or.mp brace with ⟨opening, closing⟩
    have single : doubled [c] = [c] := by simp [doubled, brace]
    rw [single]
    exact scanned_char place c rest opening closing

theorem scanned_doubled (place : Nat) {text : List Char} (rest : List Char) (nonempty : text ≠ []) :
    scanned place (doubled text ++ rest) =
      (scanned (place + byteLength (doubled text)) rest).attach
        (.literal ⟨String.ofList text, place, place + byteLength (doubled text)⟩) := by
  induction text generalizing place with
  | nil => contradiction
  | cons c more ih =>
      -- The induction would join a last character with a literal of no text.
      by_cases last : more = []
      · rw [last]
        exact scanned_doubled_char place c rest
      · have split : doubled (c :: more) = doubled [c] ++ doubled more := doubled_append [c] more
        have later := ih (place + byteLength (doubled [c])) last
        rw [split, List.append_assoc, scanned_doubled_char, later, Parsed.attach_attach,
          byteLength_append, Nat.add_assoc, ← String.ofList_append, List.singleton_append]

theorem doubled_of_not_mem {text : List Char} (opening : '{' ∉ text) (closing : '}' ∉ text) :
    doubled text = text := by
  induction text with
  | nil => rfl
  | cons c rest ih =>
      have plain : ¬ (c = '{' ∨ c = '}') := by
        intro brace
        rcases brace with rfl | rfl
        · exact opening List.mem_cons_self
        · exact closing List.mem_cons_self
      have opening : '{' ∉ rest := mt (List.mem_cons_of_mem c) opening
      have closing : '}' ∉ rest := mt (List.mem_cons_of_mem c) closing
      rw [doubled, if_neg plain, ih opening closing]

namespace Segment

/-- What a valid segment is scanned as does not depend on what follows it. -/
theorem scanned_eq (place : Nat) {segment : Segment} (valid : segment.IsValid) (rest : List Char) :
    scanned place (segment.source ++ rest) =
      (scanned (place + byteLength segment.source) rest).attach (segment.fragment place).piece := by
  cases segment with
  | text run =>
      rcases valid with ⟨nonempty, opening, closing⟩
      have joined := scanned_doubled place rest nonempty
      rw [doubled_of_not_mem opening closing] at joined
      exact joined
  | openPair => exact (Takes.openPair rest).scanned_eq
  | closePair => exact (Takes.closePair rest).scanned_eq
  | hole spelling =>
      have single := Spelling.avoids_content valid
      have closed := Spelling.closing_not_mem_content valid
      exact (Takes.hole rest single closed (Spelling.readHole_content valid place)).scanned_eq

end Segment

theorem scanned_segments (place : Nat) {segments : List Segment}
    (valid : ∀ segment ∈ segments, segment.IsValid) :
    scanned place (segments.flatMap Segment.source) = ⟨joined (fragments place segments), []⟩ := by
  induction segments generalizing place with
  | nil => exact scanned_nil place
  | cons segment rest ih =>
      have first := valid segment List.mem_cons_self
      have others : ∀ segment ∈ rest, segment.IsValid := by
        intro segment member
        exact valid segment (List.mem_cons_of_mem _ member)
      rw [List.flatMap_cons, Segment.scanned_eq place first, ih _ others, fragments, joined_cons]
      rfl

theorem Takes.exists_segment {place : Nat} {part rest : List Char} {piece : Piece}
    (takes : Takes place part rest piece []) :
    ∃ segment : Segment, segment.IsValid ∧ segment.source = part := by
  cases takes with
  | openPair => exact ⟨.openPair, trivial, rfl⟩
  | closePair => exact ⟨.closePair, trivial, rfl⟩
  | hole _ single closed read =>
      rcases exists_spelling_of_readHole closed read with ⟨spelling, valid, rfl, -⟩
      exact ⟨.hole spelling, valid, rfl⟩
  | @char c _ opening closing =>
      have valid : (Segment.text [c]).IsValid := by
        refine ⟨List.cons_ne_nil c [], ?_, ?_⟩
        · exact mt List.mem_singleton.mp opening.symm
        · exact mt List.mem_singleton.mp closing.symm
      exact ⟨.text [c], valid, rfl⟩

theorem exists_segments_of_scanned (place : Nat) (text : List Char)
    (clean : (scanned place text).diagnostics = []) :
    ∃ segments : List Segment, (∀ segment ∈ segments, segment.IsValid) ∧
      text = segments.flatMap Segment.source := by
  induction place, text using scanned_induction with
  | nil => exact ⟨[], by simp, rfl⟩
  | @step place part rest piece faults parsed takes ih =>
      rcases List.append_eq_nil_iff.mp clean with ⟨rfl, later⟩
      rcases takes.exists_segment with ⟨segment, valid, rfl⟩
      rcases ih later with ⟨segments, others, rfl⟩
      refine ⟨segment :: segments, ?_, rfl⟩
      intro other member
      rcases List.mem_cons.mp member with rfl | member
      · exact valid
      · exact others other member

end Stencil
