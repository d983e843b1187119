import Stencil.Text.Quoted

namespace Stencil

theorem run_append_inj (kind : Char → Bool) {a b rest more : List Char}
    (first : ∀ c ∈ a, kind c) (second : ∀ c ∈ b, kind c)
    (ends : ∀ c ∈ rest.head?, kind c = false) (stops : ∀ c ∈ more.head?, kind c = false)
    (same : a ++ rest = b ++ more) : a = b ∧ rest = more := by
  have taken {run after : List Char} (all : ∀ c ∈ run, kind c)
      (other : ∀ c ∈ after.head?, kind c = false) : (run ++ after).takeWhile kind = run := by
    rw [List.takeWhile_append_of_pos all]
    cases after with
    | nil => simp
    | cons c more => simp [other c rfl]
  have runs : a = b := by
    calc
      a = (a ++ rest).takeWhile kind := (taken first ends).symm
      _ = (b ++ more).takeWhile kind := by rw [same]
      _ = b := taken second stops
  subst runs
  exact ⟨rfl, List.append_cancel_left same⟩

section

variable {base a b : Nat}

theorem digitChar_inj (small : base ≤ 16) (first : a < base) (second : b < base)
    (same : a.digitChar = b.digitChar) : a = b := by
  have all : ∀ i j : Fin 16, i.val.digitChar = j.val.digitChar → i = j := by decide
  have equal := all ⟨a, by omega⟩ ⟨b, by omega⟩ same
  exact congrArg Fin.val equal

theorem toDigits_inj (large : 1 < base) (small : base ≤ 16)
    (same : Nat.toDigits base a = Nat.toDigits base b) : a = b := by
  induction a using Nat.strongRecOn generalizing b with
  | ind a ih =>
      have longer (n : Nat) (c d : Char) : Nat.toDigits base n ++ [c] ≠ [] ++ [d] := by
        intro equal
        exact Nat.toDigits_ne_nil (List.append_inj' equal rfl).1
      rw [Nat.toDigits_eq_if large, Nat.toDigits_eq_if (n := b) large] at same
      by_cases first : a < base <;> by_cases second : b < base <;>
        simp only [first, second, if_true, if_false] at same
      · exact digitChar_inj small first second (List.singleton_inj.mp same)
      · exact absurd same.symm (longer _ _ _)
      · exact absurd same (longer _ _ _)
      · obtain ⟨higher, last⟩ := List.append_inj' same rfl
        have quotient := ih (a / base) (Nat.div_lt_self (by omega) large) higher
        have remainder := digitChar_inj small (Nat.mod_lt a (by omega)) (Nat.mod_lt b (by omega))
          (List.singleton_inj.mp last)
        calc
          a = base * (a / base) + a % base := (Nat.div_add_mod a base).symm
          _ = base * (b / base) + b % base := by rw [quotient, remainder]
          _ = b := Nat.div_add_mod b base

theorem exists_of_mem_toDigits (large : 1 < base) {c : Char} (member : c ∈ Nat.toDigits base a) :
    ∃ d < base, c = d.digitChar := by
  induction a using Nat.strongRecOn with
  | ind a ih =>
      rw [Nat.toDigits_eq_if large] at member
      split at member
      · next first => exact ⟨a, first, List.mem_singleton.mp member⟩
      · next first =>
          obtain higher | last := List.mem_append.mp member
          · exact ih (a / base) (Nat.div_lt_self (by omega) large) higher
          · exact ⟨a % base, Nat.mod_lt a (by omega), List.mem_singleton.mp last⟩

end

theorem hexadecimal_of_mem {n : Nat} {c : Char} (member : c ∈ Nat.toDigits 16 n) :
    c ≠ '}' ∧ c ≠ '\n' := by
  obtain ⟨d, small, rfl⟩ := exists_of_mem_toDigits (by decide) member
  have all : ∀ d : Fin 16, d.val.digitChar ≠ '}' ∧ d.val.digitChar ≠ '\n' := by decide
  exact all ⟨d, small⟩

def unescaped : Char → Char
  | 't' => '\t'
  | 'n' => '\n'
  | 'r' => '\r'
  | '0' => '\x00'
  | c => c

/-- How a character is quoted: as itself, by a letter, or by its number. -/
inductive Quotes (c : Char) : List Char → Prop
  | shown (quote : c ≠ '"') (backslash : c ≠ '\\') (line : c ≠ '\n') : Quotes c [c]
  | escaped {letter : Char} (meaning : unescaped letter = c) (other : letter ≠ 'u')
      (line : letter ≠ '\n') : Quotes c ['\\', letter]
  | numbered : Quotes c (numbered c)

theorem quotes_quotedChar (c : Char) : Quotes c (quotedChar c) := by
  unfold quotedChar
  repeat'
    split
    rename_i same
  · exact .escaped (by rw [same]; rfl) (by decide) (by decide)
  · exact .escaped (by rw [same]; rfl) (by decide) (by decide)
  · exact .escaped (by rw [same]; rfl) (by decide) (by decide)
  · exact .escaped (by rw [same]; rfl) (by decide) (by decide)
  · exact .escaped (by rw [same]; rfl) (by decide) (by decide)
  · have meaning : unescaped '0' = c := by
      rw [← Char.ofNat_toNat c, same]
      rfl
    exact .escaped meaning (by decide) (by decide)
  · exact .shown ‹_› ‹_› ‹_›
  · exact .numbered

section

variable {c d : Char} {a b rest more : List Char}

theorem numbered_append_inj (same : numbered c ++ rest = numbered d ++ more) :
    c = d ∧ rest = more := by
  have digits : Nat.toDigits 16 c.toNat ++ '}' :: rest =
      Nat.toDigits 16 d.toNat ++ '}' :: more := by
    simpa [numbered] using same
  have inside (n : Nat) : ∀ c ∈ Nat.toDigits 16 n, (c != '}') = true := by
    intro c member
    simpa using (hexadecimal_of_mem member).1
  have ends (after : List Char) : ∀ c ∈ ('}' :: after).head?, (c != '}') = false := by simp
  obtain ⟨numbers, behind⟩ :=
    run_append_inj (· != '}') (inside _) (inside _) (ends rest) (ends more) digits
  have equal : c.toNat = d.toNat := toDigits_inj (by decide) (by decide) numbers
  exact ⟨Char.toNat_inj.mp equal, (List.cons.inj behind).2⟩

namespace Quotes

theorem append_inj (first : Quotes c a) (second : Quotes d b) (same : a ++ rest = b ++ more) :
    c = d ∧ rest = more := by
  cases first with
  | shown _ backslash =>
      cases second with
      | shown => exact List.cons.inj same
      | escaped | numbered => exact absurd (List.cons.inj same).1 backslash
  | escaped meaning other =>
      cases second with
      | shown _ backslash => exact absurd (List.cons.inj same).1.symm backslash
      | escaped meant =>
          obtain ⟨equal, behind⟩ := List.cons.inj (List.cons.inj same).2
          rw [← meaning, ← meant, equal]
          exact ⟨rfl, behind⟩
      | numbered => exact absurd (List.cons.inj (List.cons.inj same).2).1 other
  | numbered =>
      cases second with
      | shown _ backslash => exact absurd (List.cons.inj same).1.symm backslash
      | escaped _ other => exact absurd (List.cons.inj (List.cons.inj same).2).1.symm other
      | numbered => exact numbered_append_inj same

theorem append_ne_quote (quotes : Quotes c a) (rest more : List Char) :
    a ++ rest ≠ '"' :: more := by
  cases quotes with
  | shown quote => simp [quote]
  | escaped | numbered => simp [Stencil.numbered]

theorem not_mem (quotes : Quotes c a) : '\n' ∉ a := by
  cases quotes with
  | shown _ _ line => simpa using line.symm
  | escaped _ _ line => simpa using line.symm
  | numbered =>
      have digits : '\n' ∉ Nat.toDigits 16 c.toNat := fun member =>
        (hexadecimal_of_mem member).2 rfl
      simp [Stencil.numbered, digits]

end Quotes

theorem flatMap_quotedChar_inj
    (same : a.flatMap quotedChar ++ '"' :: rest = b.flatMap quotedChar ++ '"' :: more) :
    a = b ∧ rest = more := by
  induction a generalizing b with
  | nil =>
      cases b with
      | nil => exact ⟨rfl, (List.cons.inj same).2⟩
      | cons d others =>
          rw [List.flatMap_cons, List.append_assoc] at same
          exact absurd same.symm ((quotes_quotedChar d).append_ne_quote _ _)
  | cons c others ih =>
      rw [List.flatMap_cons, List.append_assoc] at same
      cases b with
      | nil => exact absurd same ((quotes_quotedChar c).append_ne_quote _ _)
      | cons d next =>
          rw [List.flatMap_cons, List.append_assoc] at same
          obtain ⟨equal, behind⟩ := (quotes_quotedChar c).append_inj (quotes_quotedChar d) same
          obtain ⟨later, left⟩ := ih behind
          exact ⟨List.cons_eq_cons.mpr ⟨equal, later⟩, left⟩

end

/-- A text can be told from its quotation, whatever stands behind it. -/
theorem quoted_append_inj {a b : String} {rest more : List Char}
    (same : (quoted a).toList ++ rest = (quoted b).toList ++ more) : a = b ∧ rest = more := by
  simp only [quoted, String.toList_ofList, List.cons_append, List.append_assoc,
    List.nil_append] at same
  obtain ⟨equal, behind⟩ := flatMap_quotedChar_inj (List.cons.inj same).2
  exact ⟨String.toList_inj.mp equal, behind⟩

theorem not_mem_quoted (text : String) : '\n' ∉ (quoted text).toList := by
  simp only [quoted, String.toList_ofList, List.cons_append, List.mem_cons, List.mem_append,
    List.mem_flatMap]
  rintro (quote | ⟨c, -, member⟩ | quote)
  · simp at quote
  · exact (quotes_quotedChar c).not_mem member
  · simp at quote

end Stencil
