import Mathlib.Data.List.Basic
import Mathlib.Data.List.TakeWhile
import Stencil.Text.Lines

namespace Stencil

def lineBehind (before : List Char) : Nat := before.count '\n' + 1

/-- The number, from one, of the column behind these characters. -/
def columnBehind (before : List Char) : Nat :=
  (before.reverse.takeWhile (· != '\n')).length + 1

theorem lineBehind_of_not_mem {before : List Char} (unbroken : '\n' ∉ before) :
    lineBehind before = 1 := by
  rw [lineBehind, List.count_eq_zero_of_not_mem unbroken]

theorem columnBehind_of_not_mem {before : List Char} (unbroken : '\n' ∉ before) :
    columnBehind before = before.length + 1 := by
  have whole : before.reverse.takeWhile (· != '\n') = before.reverse := by
    apply List.takeWhile_eq_self_iff.mpr
    intro c member
    rw [bne_iff_ne]
    rintro rfl
    exact unbroken (List.mem_reverse.mp member)
  rw [columnBehind, whole, List.length_reverse]

theorem lineBehind_break {line : List Char} (unbroken : '\n' ∉ line) (before : List Char) :
    lineBehind (line ++ ['\n'] ++ before) = 1 + lineBehind before := by
  rw [lineBehind, List.count_append, List.count_append, List.count_eq_zero_of_not_mem unbroken]
  simp [lineBehind, Nat.add_assoc]

theorem columnBehind_break (line before : List Char) :
    columnBehind (line ++ ['\n'] ++ before) = columnBehind before := by
  have stop : (['\n'].reverse ++ line.reverse).takeWhile (· != '\n') = [] := rfl
  rw [columnBehind, columnBehind, List.append_assoc, List.reverse_append, List.reverse_append,
    List.append_assoc, List.takeWhile_append, stop, List.append_nil]
  split
  · next whole => rw [whole]
  · rfl

/-- Lines as a text is split into them: each but the last one ends with its line break. -/
inductive AreLines : List (List Char) → Prop
  | nil : AreLines []
  | last {line : List Char} (unbroken : '\n' ∉ line) : AreLines [line]
  | cons {line : List Char} {more : List (List Char)} (unbroken : '\n' ∉ line)
      (lines : AreLines more) : AreLines ((line ++ ['\n']) :: more)

theorem areLines_splitLines (text : List Char) : AreLines (splitLines text) := by
  induction text with
  | nil => exact .nil
  | cons c rest ih =>
      rw [splitLines]
      split
      · next same =>
        have first : AreLines (([] ++ ['\n']) :: splitLines rest) := .cons List.not_mem_nil ih
        rw [same]
        exact first
      · next other =>
        have unbroken {line : List Char} (free : '\n' ∉ line) : '\n' ∉ c :: line := by
          rw [List.mem_cons, not_or]
          exact ⟨Ne.symm other, free⟩
        split
        · exact .last (unbroken List.not_mem_nil)
        · next line more lines =>
          rw [lines] at ih
          generalize lines : line :: more = all at ih
          cases ih with
          | nil => cases lines
          | last free =>
              cases lines
              exact .last (unbroken free)
          | cons free others =>
              cases lines
              exact .cons (unbroken free) others

theorem AreLines.unbroken {line before rest : List Char} {more : List (List Char)}
    (lines : AreLines (line :: more)) (split : before ++ rest = line) (inside : rest ≠ []) :
    '\n' ∉ before := by
  obtain rfl | ⟨init, last, rfl⟩ := List.eq_nil_or_concat' rest
  · contradiction
  cases lines with
  | last free =>
      rw [← split] at free
      exact fun member => free (List.mem_append_left _ member)
  | cons free =>
      rw [← List.append_assoc] at split
      rw [← (List.append_inj' split rfl).1] at free
      exact fun member => free (List.mem_append_left _ member)

theorem AreLines.exists_break {line next : List Char} {more : List (List Char)}
    (lines : AreLines (line :: next :: more)) :
    ∃ init, line = init ++ ['\n'] ∧ '\n' ∉ init ∧ AreLines (next :: more) := by
  cases lines with
  | cons unbroken lines => exact ⟨_, rfl, unbroken, lines⟩

section

variable {first : Line} {more : List (List Char)} {offset : Nat}

theorem findLine_of_lt (inside : offset < first.start + first.text.length) :
    findLine offset first more = first := by
  cases more with
  | nil => rfl
  | cons text more => exact if_pos inside

theorem findLine_of_le (beyond : first.start + first.text.length ≤ offset) (text : List Char) :
    findLine offset first (text :: more) =
      findLine offset ⟨first.number + 1, first.start + first.text.length, text⟩ more :=
  if_neg (Nat.not_lt.mpr beyond)

theorem number_le_findLine (first : Line) :
    first.number ≤ (findLine offset first more).number := by
  induction more generalizing first with
  | nil => exact Nat.le_refl _
  | cons text more ih =>
      obtain inside | beyond := Nat.lt_or_ge offset (first.start + first.text.length)
      · exact Nat.le_of_eq (congrArg Line.number (findLine_of_lt inside).symm)
      · rw [findLine_of_le beyond]
        exact Nat.le_trans (Nat.le_succ first.number) (ih ⟨first.number + 1, _, text⟩)

theorem start_findLine_le (behind : first.start ≤ offset) :
    (findLine offset first more).start ≤ offset := by
  induction more generalizing first with
  | nil => exact behind
  | cons text more ih =>
      obtain inside | beyond := Nat.lt_or_ge offset (first.start + first.text.length)
      · rw [findLine_of_lt inside]
        exact behind
      · rw [findLine_of_le beyond]
        exact ih beyond

theorem findLine_eq_of_number {other : Nat}
    (same : (findLine offset first more).number = (findLine other first more).number) :
    findLine offset first more = findLine other first more := by
  induction more generalizing first with
  | nil => rfl
  | cons text more ih =>
      let next : Line := ⟨first.number + 1, first.start + first.text.length, text⟩
      have later {offset : Nat} : first.number < (findLine offset next more).number :=
        Nat.lt_of_lt_of_le (Nat.lt_succ_self _) (number_le_findLine next)
      obtain inside | beyond := Nat.lt_or_ge offset (first.start + first.text.length) <;>
        obtain within | behind := Nat.lt_or_ge other (first.start + first.text.length)
      · rw [findLine_of_lt inside, findLine_of_lt within]
      · rw [findLine_of_lt inside, findLine_of_le behind] at same
        exact absurd same (Nat.ne_of_lt later)
      · rw [findLine_of_le beyond, findLine_of_lt within] at same
        exact absurd same (Nat.ne_of_gt later)
      · rw [findLine_of_le beyond, findLine_of_le behind] at same ⊢
        exact ih same

theorem findLine_append (lines : AreLines (first.text :: more)) {before rest : List Char}
    (split : before ++ rest = (first.text :: more).flatten) (inside : rest ≠ []) :
    let line := findLine (first.start + before.length) first more
    line.number + 1 = first.number + lineBehind before ∧
      line.start + columnBehind before = first.start + before.length + 1 := by
  induction more generalizing first before with
  | nil =>
      rw [List.flatten_cons, List.flatten_nil, List.append_nil] at split
      have unbroken := lines.unbroken split inside
      rw [findLine, lineBehind_of_not_mem unbroken, columnBehind_of_not_mem unbroken]
      exact ⟨rfl, rfl⟩
  | cons text more ih =>
      rw [List.flatten_cons] at split
      have short : before <+: first.text ++ (text :: more).flatten := ⟨rest, split⟩
      have whole : first.text <+: first.text ++ (text :: more).flatten := List.prefix_append _ _
      -- In the first line no break is in front. Behind it, the break that ends it counts.
      obtain within | behind := Nat.lt_or_ge before.length first.text.length
      · obtain ⟨left, here⟩ := List.prefix_of_prefix_length_le short whole (Nat.le_of_lt within)
        have more_left : left ≠ [] := by
          rintro rfl
          rw [← here, List.append_nil] at within
          exact Nat.lt_irrefl _ within
        have unbroken := lines.unbroken here more_left
        rw [findLine_of_lt (Nat.add_lt_add_left within _), lineBehind_of_not_mem unbroken,
          columnBehind_of_not_mem unbroken]
        exact ⟨rfl, rfl⟩
      · obtain ⟨later, rfl⟩ := List.prefix_of_prefix_length_le whole short behind
        rw [List.append_assoc, List.append_cancel_left_eq] at split
        obtain ⟨line, ended, free, lines⟩ := lines.exists_break
        obtain ⟨number, start⟩ :=
          @ih ⟨first.number + 1, first.start + first.text.length, text⟩ lines later split
        rw [List.length_append, ← Nat.add_assoc, findLine_of_le (Nat.le_add_right _ _), ended,
          lineBehind_break free, columnBehind_break, ← ended, ← Nat.add_assoc]
        exact ⟨number, start⟩

end

theorem start_lineAt_le (offset : Nat) (text : List Char) :
    (lineAt offset text).start ≤ offset := by
  rw [lineAt]
  split
  · exact Nat.zero_le _
  · exact start_findLine_le (Nat.zero_le _)

theorem lineAt_eq_of_number {offset other : Nat} {text : List Char}
    (same : (lineAt offset text).number = (lineAt other text).number) :
    lineAt offset text = lineAt other text := by
  unfold lineAt at same ⊢
  cases lines : splitLines text with
  | nil => rfl
  | cons line more =>
      rw [lines] at same
      exact findLine_eq_of_number same

theorem lineAt_append {before rest : List Char} (inside : rest ≠ []) :
    let line := lineAt before.length (before ++ rest)
    line.number = lineBehind before ∧ before.length - line.start + 1 = columnBehind before := by
  intro line
  have lines := areLines_splitLines (before ++ rest)
  have split := flatten_splitLines (before ++ rest)
  have behind : line.start ≤ before.length := start_lineAt_le _ _
  have told : line.number + 1 = 1 + lineBehind before ∧
      line.start + columnBehind before = before.length + 1 := by
    unfold line lineAt
    generalize splitLines (before ++ rest) = all at lines split
    cases all with
    | nil => exact absurd (List.append_eq_nil_iff.mp split.symm).2 inside
    | cons text more =>
        have first := @findLine_append ⟨1, 0, text⟩ more lines before rest split.symm inside
        rwa [Nat.zero_add] at first
  omega

theorem eq_length_of_lineAt {before rest : List Char} (inside : rest ≠ []) {offset : Nat}
    (line : (lineAt offset (before ++ rest)).number = lineBehind before)
    (column : offset - (lineAt offset (before ++ rest)).start + 1 = columnBehind before) :
    offset = before.length := by
  obtain ⟨number, place⟩ := lineAt_append inside
  have same := lineAt_eq_of_number (line.trans number.symm)
  have behind := start_lineAt_le offset (before ++ rest)
  have within := start_lineAt_le before.length (before ++ rest)
  rw [same] at column behind
  omega

end Stencil
