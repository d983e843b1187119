import Stencil.Proofs.Spelling

namespace Stencil

/-- The text is a number that tells this alignment: the sign its side, the digits its width. -/
def Alignment.IsToldBy (text : List Char) (alignment : Alignment) : Prop :=
  (isDigits text ∧ alignment.side = .right ∧ alignment.width.toNat = digitsValue text) ∨
    ∃ magnitude, text = '-' :: magnitude ∧ isDigits magnitude ∧ alignment.side = .left ∧
      alignment.width.toNat = digitsValue magnitude

theorem IsAlignment.exists_told {text : List Char} (valid : IsAlignment text) :
    ∃ alignment : Alignment, readAlignment text = some alignment ∧ alignment.IsToldBy text ∧
      alignment.IsWritable := by
  obtain ⟨decimal, positive, bound⟩ | ⟨magnitude, rfl, decimal, positive, bound⟩ := valid
  · have right : ¬ (digitsValue text : Int) < 0 := by omega
    have small : digitsValue text < 2 ^ 64 := by omega
    have read := readSigned_digits decimal
    have value := UInt64.toNat_ofNat_of_lt' small
    refine ⟨_, readAlignment_of_readSigned read (by omega) (by omega) (by omega), ?_⟩
    rw [if_neg right]
    refine ⟨.inl ⟨decimal, rfl, value⟩, ?_⟩
    rw [Int.natAbs_natCast, Alignment.IsWritable, value]
    omega
  · have left : -(digitsValue magnitude : Int) < 0 := by omega
    have width : (-(digitsValue magnitude : Int)).natAbs = digitsValue magnitude := by omega
    have small : digitsValue magnitude < 2 ^ 64 := by omega
    have read := readSigned_minus decimal
    have value := UInt64.toNat_ofNat_of_lt' small
    refine ⟨_, readAlignment_of_readSigned read (by omega) (by omega) (by omega), ?_⟩
    rw [if_pos left, width]
    refine ⟨.inr ⟨magnitude, rfl, decimal, rfl, value⟩, ?_⟩
    rw [Alignment.IsWritable, value]
    omega

namespace Spelling

def HasName (spelling : Spelling) : Prop :=
  spelling.name ≠ [] ∧ ∀ c ∈ spelling.name, isAlphanumeric c ∨ c = '_'

theorem isName_iff_hasName (spelling : Spelling) : isName spelling.name ↔ spelling.HasName := by
  simp [isName, HasName, isNameChar]

variable {spelling : Spelling}

theorem alignment_hole (valid : ∀ text ∈ spelling.alignment, IsAlignment text) (start : Nat) :
    Option.Rel Alignment.IsToldBy spelling.alignment (spelling.hole start).alignment := by
  rw [hole]
  cases present : spelling.alignment with
  | none => exact .none
  | some text =>
      obtain ⟨alignment, read, told, -⟩ := (valid text present).exists_told
      rw [Option.bind_some, read]
      exact .some told

theorem format_hole (spelling : Spelling) (start : Nat) :
    (spelling.hole start).format.map String.toList = spelling.format.filter (!·.isEmpty) := by
  rw [hole]
  cases spelling.format with
  | none => rfl
  | some text => cases text <;> simp

theorem Divides.readHole_cases {content : List Char} (divides : spelling.Divides content)
    (start : Nat) :
    (content = [] ∧ readHole content start = .error .empty) ∨
      (content ≠ [] ∧ ¬ spelling.HasName ∧ readHole content start = .error .badName) ∨
      (content ≠ [] ∧ spelling.HasName ∧ (∃ text ∈ spelling.alignment, ¬ IsAlignment text) ∧
        readHole content start = .error .badAlignment) ∨
      (content ≠ [] ∧ spelling.HasName ∧ (∀ text ∈ spelling.alignment, IsAlignment text) ∧
        readHole content start = .ok (spelling.hole start)) := by
  rw [divides.readHole_eq start]
  by_cases empty : content = []
  · exact .inl ⟨empty, if_pos empty⟩
  by_cases name : isName spelling.name
  · have hasName := spelling.isName_iff_hasName.mp name
    rw [if_neg empty, if_pos name]
    cases present : spelling.alignment with
    | none => exact .inr (.inr (.inr ⟨empty, hasName, nofun, rfl⟩))
    | some text =>
        by_cases aligned : IsAlignment text
        · have readable := (readAlignment_isSome_iff text).mpr aligned
          refine .inr (.inr (.inr ⟨empty, hasName, ?_, if_pos readable⟩))
          simpa using aligned
        · have unreadable := mt (readAlignment_isSome_iff text).mp aligned
          exact .inr (.inr (.inl ⟨empty, hasName, ⟨text, rfl, aligned⟩, if_neg unreadable⟩))
  · have nameless := mt spelling.isName_iff_hasName.mpr name
    rw [if_neg empty, if_neg name]
    exact .inr (.inl ⟨empty, nameless, rfl⟩)

end Spelling

/-- A text between braces is divided in one way. It is not read if it is empty, or else if its name
is not one, or else if its alignment is none; of several faults this order decides. In all other
cases it is read as the hole of its sections, an empty format being none. -/
theorem readHole_decides (content : List Char) (start : Nat) :
    ∃ spelling : Spelling, (∀ other : Spelling, other.Divides content ↔ other = spelling) ∧
      (readHole content start = .error .empty ↔ content = []) ∧
      (readHole content start = .error .badName ↔ content ≠ [] ∧ ¬ spelling.HasName) ∧
      (readHole content start = .error .badAlignment ↔
        content ≠ [] ∧ spelling.HasName ∧ ∃ text ∈ spelling.alignment, ¬ IsAlignment text) ∧
      (content ≠ [] → spelling.HasName → (∀ text ∈ spelling.alignment, IsAlignment text) →
        ∃ hole, readHole content start = .ok hole ∧
          hole.name.toList = spelling.name ∧ hole.hint = spelling.hint ∧
          Option.Rel Alignment.IsToldBy spelling.alignment hole.alignment ∧
          hole.format.map String.toList = spelling.format.filter (!·.isEmpty) ∧
          hole.start = start ∧ hole.raw.toList = '{' :: content ++ ['}']) := by
  obtain ⟨spelling, divides⟩ := Spelling.exists_divides content
  have only (other : Spelling) : other.Divides content ↔ other = spelling := by
    constructor
    · exact divides.unique
    · rintro rfl
      exact divides
  refine ⟨spelling, only, ?_⟩
  obtain ⟨empty, read⟩ | ⟨filled, nameless, read⟩ | ⟨filled, name, ⟨text, present, bad⟩, read⟩ |
    ⟨filled, name, aligned, read⟩ := divides.readHole_cases start
  · rw [read]
    simp [empty]
  · simp [read, filled, nameless]
  · refine ⟨by simp [read, filled], by simp [read, name], ?_, ?_⟩
    · exact iff_of_true read ⟨filled, name, text, present, bad⟩
    · intro _ _ aligned
      exact absurd (aligned text present) bad
  · refine ⟨by simp [read, filled], by simp [read, name], ?_, ?_⟩
    · simpa [read, filled, name] using aligned
    · intro _ _ _
      refine ⟨spelling.hole start, read, String.toList_ofList, rfl,
        Spelling.alignment_hole aligned start, spelling.format_hole start, rfl, ?_⟩
      rw [← divides.joins]
      exact String.toList_ofList

end Stencil
