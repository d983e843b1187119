namespace Stencil

/-- The text before the first `mark`, and, where there is one, the text after it. -/
def cutAt (mark : Char) : List Char → List Char × Option (List Char)
  | [] => ([], none)
  | c :: rest =>
      if c = mark then ([], some rest)
      else match cutAt mark rest with
        | (before, after) => (c :: before, after)

theorem cutAt_self (mark : Char) (rest : List Char) :
    cutAt mark (mark :: rest) = ([], some rest) := by simp [cutAt]

theorem cutAt_cons {mark c : Char} (other : c ≠ mark) (rest : List Char) :
    cutAt mark (c :: rest) = (c :: (cutAt mark rest).1, (cutAt mark rest).2) := by
  simp [cutAt, other]

theorem cutAt_append {mark : Char} {before : List Char} (absent : mark ∉ before)
    (after : List Char) : cutAt mark (before ++ mark :: after) = (before, some after) := by
  induction before with
  | nil => exact cutAt_self mark after
  | cons c rest ih =>
      obtain ⟨other, absent⟩ := not_or.mp (mt List.mem_cons.mpr absent)
      rw [List.cons_append, cutAt_cons (Ne.symm other), ih absent]

theorem cutAt_of_not_mem {mark : Char} {text : List Char} (absent : mark ∉ text) :
    cutAt mark text = (text, none) := by
  induction text with
  | nil => rfl
  | cons c rest ih =>
      obtain ⟨other, absent⟩ := not_or.mp (mt List.mem_cons.mpr absent)
      rw [cutAt_cons (Ne.symm other), ih absent]

theorem cutAt_eq_some {mark : Char} {text before after : List Char}
    (cut : cutAt mark text = (before, some after)) :
    text = before ++ mark :: after ∧ mark ∉ before := by
  induction text generalizing before with
  | nil => simp [cutAt] at cut
  | cons c rest ih =>
      by_cases here : c = mark
      · obtain ⟨rfl, rfl⟩ := by simpa [cutAt, here] using cut
        simp [here]
      · obtain ⟨rfl, found⟩ := by simpa [cutAt, here] using cut
        obtain ⟨split, absent⟩ := ih (Prod.ext rfl found)
        exact ⟨congrArg (c :: ·) split, by simp [absent, Ne.symm here]⟩

theorem cutAt_eq_none {mark : Char} {text before : List Char}
    (cut : cutAt mark text = (before, none)) : before = text ∧ mark ∉ text := by
  induction text generalizing before with
  | nil => simpa [cutAt, eq_comm] using cut
  | cons c rest ih =>
      by_cases here : c = mark
      · simp [cutAt, here] at cut
      · obtain ⟨rfl, found⟩ := by simpa [cutAt, here] using cut
        obtain ⟨same, absent⟩ := ih (Prod.ext rfl found)
        exact ⟨congrArg (c :: ·) same, by simp [absent, Ne.symm here]⟩

theorem length_lt_of_cutAt {mark : Char} {text before after : List Char}
    (cut : cutAt mark text = (before, some after)) : after.length < text.length := by
  rw [(cutAt_eq_some cut).1]
  simp
  omega

end Stencil
