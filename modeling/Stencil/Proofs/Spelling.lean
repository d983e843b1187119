import Stencil.Proofs.Alignment

namespace Stencil

theorem no_mark_of_isName {name : List Char} (valid : isName name) {mark : Char}
    (foreign : isNameChar mark = false) : mark ∉ name := by
  intro member
  simp only [isName, Bool.and_eq_true, List.all_eq_true] at valid
  simp [valid.2 mark member] at foreign

theorem ne_nil_of_isName {name : List Char} (valid : isName name) : name ≠ [] := by
  intro empty
  simp [isName, empty] at valid

theorem isNameChar_mark : ∀ mark ∈ [':', ',', '{', '}', '$', '@'], isNameChar mark = false := by
  have all : [':', ',', '{', '}', '$', '@'].all (fun mark => !isNameChar mark) = true := by
    decide +kernel
  intro mark member
  simpa using List.all_eq_true.mp all mark member

theorem splitSigil_eq {text name : List Char} {hint : Hint}
    (split : splitSigil text = (hint, name)) : text = hint.sigil.toList ++ name := by
  unfold splitSigil at split
  split at split
  · rcases Prod.mk.inj split with ⟨rfl, rfl⟩
    rfl
  · next c rest =>
      split at split
      · next marked found =>
          rcases Prod.mk.inj split with ⟨rfl, rfl⟩
          have sigil : marked.sigil = some c := Hint.ofSigil_eq_some_iff.mp found
          rw [sigil]
          rfl
      · rcases Prod.mk.inj split with ⟨rfl, rfl⟩
        rfl

theorem splitSigil_append {hint : Hint} {name : List Char}
    (unmarked : hint = .plain → ∀ c ∈ name.head?, c ≠ '@' ∧ c ≠ '$') :
    splitSigil (hint.sigil.toList ++ name) = (hint, name) := by
  cases hint with
  | stringify | destructure => rfl
  | plain =>
      cases name with
      | nil => rfl
      | cons c rest =>
          obtain ⟨commercial, dollar⟩ := unmarked rfl c rfl
          have none : Hint.ofSigil c = none := by
            unfold Hint.ofSigil
            split <;> simp_all
          simp [splitSigil, Hint.sigil, none]

theorem splitSigil_plain {text name : List Char} (split : splitSigil text = (.plain, name)) :
    ∀ c ∈ name.head?, c ≠ '@' ∧ c ≠ '$' := by
  intro c first
  have whole : text = name := splitSigil_eq split
  cases name with
  | nil => contradiction
  | cons other rest =>
      have same : other = c := by simpa using first
      rw [whole, same] at split
      constructor
      · rintro rfl
        simp [splitSigil, Hint.ofSigil] at split
      · rintro rfl
        simp [splitSigil, Hint.ofSigil] at split

theorem cutAt_join (mark : Char) (text : List Char) :
    (cutAt mark text).1 ++ ((cutAt mark text).2.elim [] fun after => mark :: after) = text := by
  cases cut : cutAt mark text with
  | mk before after =>
  cases after with
  | none => simp [cutAt_eq_none cut]
  | some after => exact (cutAt_eq_some cut).1.symm

theorem cutAt_elim {mark : Char} {before : List Char} (absent : mark ∉ before)
    (after : Option (List Char)) :
    cutAt mark (before ++ after.elim [] fun text => mark :: text) = (before, after) := by
  cases after with
  | none => rw [Option.elim_none, List.append_nil, cutAt_of_not_mem absent]
  | some text => exact cutAt_append absent text

theorem sections_join (content : List Char) :
    (sections content).name
      ++ ((sections content).alignment.elim [] fun text => ',' :: text)
      ++ ((sections content).format.elim [] fun text => ':' :: text) = content := by
  simp only [sections, cutAt_join]

theorem mark_not_mem_cutAt (mark : Char) (text : List Char) : mark ∉ (cutAt mark text).1 := by
  cases cut : cutAt mark text with
  | mk before after =>
  cases after with
  | none =>
      obtain ⟨rfl, absent⟩ := cutAt_eq_none cut
      exact absent
  | some after => exact (cutAt_eq_some cut).2

theorem sections_marks (content : List Char) :
    ',' ∉ (sections content).name ∧ ':' ∉ (sections content).name ∧
      ∀ text ∈ (sections content).alignment, ':' ∉ text := by
  have colon : ':' ∉ (cutAt ':' content).1 := mark_not_mem_cutAt ':' content
  -- The name and the alignment are parts of what stands before the first colon.
  rw [← cutAt_join ',' (cutAt ':' content).1] at colon
  obtain ⟨name, behind⟩ := not_or.mp (mt List.mem_append.mpr colon)
  refine ⟨mark_not_mem_cutAt ',' _, name, ?_⟩
  intro text present member
  have given : (cutAt ',' (cutAt ':' content).1).2 = some text := present
  apply behind
  rw [given]
  exact List.mem_cons_of_mem ',' member

namespace Spelling

/-- How a text is divided, whatever its sections hold. The first `:` begins the format, the first
`,` before it begins the alignment, and a leading sigil is no part of the name. -/
structure Divides (spelling : Spelling) (content : List Char) : Prop where
  joins : spelling.content = content
  comma : ',' ∉ spelling.name
  colon : ':' ∉ spelling.name
  alignment : ∀ text ∈ spelling.alignment, ':' ∉ text
  unmarked : spelling.hint = .plain → ∀ c ∈ spelling.name.head?, c ≠ '@' ∧ c ≠ '$'

variable {spelling : Spelling} {content : List Char}

theorem Divides.sections_eq (divides : spelling.Divides content) :
    sections content =
      ⟨spelling.hint.sigil.toList ++ spelling.name, spelling.alignment, spelling.format⟩ := by
  obtain ⟨rfl, comma, colon, alignment, -⟩ := divides
  obtain ⟨hint, name, aligned, format⟩ := spelling
  have comma : ',' ∉ hint.sigil.toList ++ name := by
    cases hint <;> simp_all [Hint.sigil]
  have colon : ':' ∉ (hint.sigil.toList ++ name) ++ aligned.elim [] fun text => ',' :: text := by
    cases aligned with
    | none => cases hint <;> simp_all [Hint.sigil]
    | some text =>
        have := alignment text rfl
        cases hint <;> simp_all [Hint.sigil]
  simp only [sections, Spelling.content, cutAt_elim colon, cutAt_elim comma]

theorem exists_divides (content : List Char) : ∃ spelling : Spelling, spelling.Divides content := by
  have join := sections_join content
  obtain ⟨comma, colon, alignment⟩ := sections_marks content
  cases sigil : splitSigil (sections content).name with
  | mk hint name =>
  have inside {c : Char} (member : c ∈ name) : c ∈ (sections content).name := by
    rw [splitSigil_eq sigil]
    exact List.mem_append_right _ member
  rw [splitSigil_eq sigil] at join
  refine ⟨⟨hint, name, (sections content).alignment, (sections content).format⟩, join, ?_, ?_,
    alignment, ?_⟩
  · exact mt inside comma
  · exact mt inside colon
  · rintro rfl
    exact splitSigil_plain sigil

/-- There is one way only to divide a text. -/
theorem Divides.unique {other : Spelling} (divides : spelling.Divides content)
    (also : other.Divides content) : other = spelling := by
  obtain ⟨name, alignment, format⟩ := Sections.mk.inj (also.sections_eq.symm.trans divides.sections_eq)
  have split : (other.hint, other.name) = (spelling.hint, spelling.name) := by
    rw [← splitSigil_append also.unmarked, name, splitSigil_append divides.unmarked]
  obtain ⟨hint, name⟩ := Prod.mk.inj split
  cases other
  cases spelling
  simp_all

theorem Divides.readHole_eq (divides : spelling.Divides content) (start : Nat) :
    readHole content start =
      if content = [] then .error .empty
      else if isName spelling.name then
        match spelling.alignment with
        | none => .ok (spelling.hole start)
        | some text =>
            if (readAlignment text).isSome then .ok (spelling.hole start)
            else .error .badAlignment
      else .error .badName := by
  have sigil := splitSigil_append divides.unmarked
  simp only [readHole, divides.sections_eq, sigil]
  cases content with
  | nil => rfl
  | cons c rest =>
  cases name : isName spelling.name with
  | false => rfl
  | true =>
      simp only [Spelling.hole, divides.joins]
      cases present : spelling.alignment with
      | none => simp
      | some text => cases read : readAlignment text <;> simp [read]

theorem IsValid.divides (valid : spelling.IsValid) : spelling.Divides spelling.content where
  joins := rfl
  comma := no_mark_of_isName valid.name (isNameChar_mark ',' (by simp))
  colon := no_mark_of_isName valid.name (isNameChar_mark ':' (by simp))
  -- An alignment holds digits and a sign only.
  alignment := fun text present => (valid.alignment text present).no_mark (by decide) (by decide)
  unmarked := by
    intro _ c first
    have member : c ∈ spelling.name := List.mem_of_head? first
    constructor
    · rintro rfl
      exact no_mark_of_isName valid.name (isNameChar_mark '@' (by simp)) member
    · rintro rfl
      exact no_mark_of_isName valid.name (isNameChar_mark '$' (by simp)) member

theorem IsValid.content_ne_nil (valid : spelling.IsValid) : spelling.content ≠ [] := by
  simp [Spelling.content, ne_nil_of_isName valid.name]

theorem readHole_content (valid : spelling.IsValid) (start : Nat) :
    readHole spelling.content start = .ok (spelling.hole start) := by
  rw [valid.divides.readHole_eq start, if_neg valid.content_ne_nil, if_pos valid.name]
  cases present : spelling.alignment with
  | none => rfl
  | some text =>
      have readable := (readAlignment_isSome_iff text).mpr (valid.alignment text present)
      simp only [readable, if_true]

theorem Divides.of_readHole (divides : spelling.Divides content) {start : Nat} {hole : Hole}
    (read : readHole content start = .ok hole) :
    isName spelling.name ∧ (∀ text ∈ spelling.alignment, IsAlignment text) ∧
      hole = spelling.hole start := by
  rw [divides.readHole_eq start] at read
  split at read
  · contradiction
  split at read
  · next name =>
      split at read
      · next absent => exact ⟨name, by simp [absent], (Except.ok.inj read).symm⟩
      · next text present =>
          split at read
          · next readable =>
              have aligned := (readAlignment_isSome_iff text).mp readable
              exact ⟨name, by simpa [present] using aligned, (Except.ok.inj read).symm⟩
          · contradiction
  · contradiction

end Spelling

theorem exists_spelling_of_readHole {content : List Char} {start : Nat} {hole : Hole}
    (closed : '}' ∉ content) (read : readHole content start = .ok hole) :
    ∃ spelling : Spelling, spelling.IsValid ∧ spelling.content = content ∧
      hole = spelling.hole start := by
  obtain ⟨spelling, divides⟩ := Spelling.exists_divides content
  obtain ⟨name, alignment, made⟩ := divides.of_readHole read
  have format : ∀ text ∈ spelling.format, '}' ∉ text := by
    intro text present member
    apply closed
    rw [← divides.joins, Spelling.content, Option.mem_def.mp present]
    simp [member]
  exact ⟨spelling, ⟨name, alignment, format⟩, divides.joins, made⟩

end Stencil
