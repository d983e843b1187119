import Stencil.Proofs.FixedPoint

/-!
Reading a string in quotes from the left: a backslash makes the next character literal, and the
first quote that is not made so ends the string. A written string is read back, whatever follows it.
-/

namespace Stencil

/-- The string up to the quote that ends it, and the text behind that quote. -/
def unescape : List Char → Option (List Char × List Char)
  | [] => none
  | ['\\'] => none
  | '"' :: rest => some ([], rest)
  | '\\' :: c :: rest => (unescape rest).map (Prod.map (c :: ·) id)
  | c :: rest => (unescape rest).map (Prod.map (c :: ·) id)

def unquote : List Char → Option (List Char × List Char)
  | '"' :: rest => unescape rest
  | _ => none

theorem unescape_cons {c : Char} (plain : ¬ (c = '"' ∨ c = '\\')) (rest : List Char) :
    unescape (c :: rest) = (unescape rest).map (Prod.map (c :: ·) id) := by
  rw [unescape] <;> simp_all

theorem unescape_escaped (text rest : List Char) :
    unescape (escaped text ++ '"' :: rest) = some (text, rest) := by
  induction text with
  | nil => rfl
  | cons c more ih =>
      rw [escaped]
      split
      · rw [List.cons_append, List.cons_append, unescape, ih]
        rfl
      · next plain =>
        rw [List.cons_append, unescape_cons plain, ih]
        rfl

theorem unescape_append {text string rest : List Char}
    (read : unescape text = some (string, rest)) (more : List Char) :
    unescape (text ++ more) = some (string, rest ++ more) := by
  fun_induction unescape text generalizing string with
  | case1 | case2 => cases read
  | case3 => cases read; rfl
  | case4 c behind ih =>
      obtain ⟨⟨inner, after⟩, later, same⟩ := Option.map_eq_some_iff.mp read
      cases same
      rw [List.cons_append, List.cons_append, unescape, ih later]
      rfl
  | case5 c behind last quote follows ih =>
      have plain : ¬ (c = '"' ∨ c = '\\') := by
        rintro (rfl | rfl)
        · exact quote rfl
        · cases behind with
          | nil => exact last rfl rfl
          | cons next others => exact follows next others rfl rfl
      obtain ⟨⟨inner, after⟩, later, same⟩ := Option.map_eq_some_iff.mp read
      cases same
      rw [List.cons_append, unescape_cons plain, ih later]
      rfl

theorem unquote_append {text string rest : List Char}
    (read : unquote text = some (string, rest)) (more : List Char) :
    unquote (text ++ more) = some (string, rest ++ more) := by
  unfold unquote at read
  split at read
  · exact unescape_append read more
  · cases read

/-- A string with a backslash before each of its quotes and backslashes, in quotes. -/
def quotation (text : String) : String := String.ofList ('"' :: escaped text.toList ++ ['"'])

theorem unquote_quotation (text : String) (rest : List Char) :
    unquote ((quotation text).toList ++ rest) = some (text.toList, rest) := by
  rw [quotation, String.toList_ofList, List.append_assoc]
  exact unescape_escaped text.toList rest

theorem quotation_append_inj {a b : String} {rest more : List Char}
    (same : (quotation a).toList ++ rest = (quotation b).toList ++ more) : a = b ∧ rest = more := by
  have read := unquote_quotation a rest
  rw [same, unquote_quotation, Option.some.injEq, Prod.mk.injEq] at read
  exact ⟨(String.toList_inj.mp read.1).symm, read.2.symm⟩

theorem unquote_eq_none_of_append {text : String} {part rest : List Char}
    (split : (quotation text).toList = part ++ rest) (cut : rest ≠ []) : unquote part = none := by
  cases read : unquote part with
  | none => rfl
  | some ends =>
      have whole := unquote_quotation text []
      rw [List.append_nil, split, unquote_append read, Option.some.injEq, Prod.mk.injEq] at whole
      exact absurd (List.append_eq_nil_iff.mp whole.2).2 cut

theorem collect_string (text : String) {format : Option String} (quoted : format ≠ some "l")
    (symbols : Symbols) :
    ((Scalar.str text).value format symbols).collect = .ok (quotation text) := by
  have written : (Scalar.str text).value format symbols = [.write (quotation text)] :=
    if_neg quoted
  rw [written]
  apply Emission.collect_of_trace
  simp [Emission.trace]

/-- A string that is not asked for as it is can be read back from what is written, whatever text
stands behind it; no part that ends before is read as a string. Two strings are written alike only
if they are equal, even with other formats and symbols and with other texts behind them. -/
theorem string_delimits_itself (text : String) {format : Option String}
    (quoted : format ≠ some "l") (symbols : Symbols) :
    ∃ written, ((Scalar.str text).value format symbols).collect = .ok written ∧
      (∀ rest, unquote (written.toList ++ rest) = some (text.toList, rest)) ∧
      (∀ part rest, written.toList = part ++ rest → rest ≠ [] → unquote part = none) ∧
      ∀ (other : String) (asked : Option String) (others : Symbols) (second : String),
        asked ≠ some "l" → ((Scalar.str other).value asked others).collect = .ok second →
          ∀ rest more, written.toList ++ rest = second.toList ++ more →
            text = other ∧ rest = more := by
  refine ⟨quotation text, collect_string text quoted symbols, unquote_quotation text, ?_, ?_⟩
  · intro part rest split cut
    exact unquote_eq_none_of_append split cut
  · intro other asked others second also written rest more same
    rw [collect_string other also others] at written
    rcases Except.ok.inj written
    exact quotation_append_inj same

theorem string_delimits_itself_backslashes :
    some "L" ≠ some "l" ∧ (none : Option String) ≠ some "l" ∧
      ∃ written, ((Scalar.str "\\\"\\").value (some "L") .invariant).collect = .ok written ∧
        unquote (written.toList ++ ['"']) = some (['\\', '"', '\\'], ['"']) ∧
        (written = "\"\\\\\\\"\\\\\"" ∧ unquote "\"\\\\\\\"".toList = none) ∧
        ∀ second, ((Scalar.str "\\\"\\\"").value none .invariant).collect = .ok second →
          written.toList ++ ['"'] ≠ second.toList := by
  have quoted : some "L" ≠ some "l" := by decide
  have unformatted : (none : Option String) ≠ some "l" := nofun
  obtain ⟨written, collected, read, parts, apart⟩ :=
    string_delimits_itself "\\\"\\" quoted .invariant
  have text : written = "\"\\\\\\\"\\\\\"" := by
    rw [collect_string _ quoted] at collected
    exact (Except.ok.inj collected).symm.trans (by decide +kernel)
  refine ⟨quoted, unformatted, written, collected, read ['"'], ⟨text, ?_⟩, ?_⟩
  · exact parts _ ['\\', '\\', '"'] (by rw [text]; rfl) nofun
  · intro second other same
    have ends : written.toList ++ ['"'] = second.toList ++ [] := by simpa using same
    have equal := (apart _ none .invariant second unformatted other ['"'] [] ends).1
    exact absurd equal (by decide)

end Stencil
