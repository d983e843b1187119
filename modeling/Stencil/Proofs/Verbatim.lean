import Stencil.Proofs.Concatenation
import Stencil.Proofs.Diagnosis

/-!
What becomes of a fragment that is no hole. It stands in the template as one part of a literal,
between what the text before it and the text after it are parsed as alone. A fragment that is
closed, or a stray brace, stands there as it is written. In a fragment that is never closed doubled
braces are single, as everywhere in a text.
-/

namespace Stencil

/-- The text with single braces for the doubled opening ones. -/
def halved : List Char → List Char
  | [] => []
  | '{' :: '{' :: rest => '{' :: halved rest
  | c :: rest => c :: halved rest

theorem halved_openPair (rest : List Char) : halved ('{' :: '{' :: rest) = '{' :: halved rest := by
  rw [halved]

theorem halved_cons {c : Char} {rest : List Char} (single : c = '{' → Avoids '{' rest) :
    halved (c :: rest) = c :: halved rest := by
  rw [halved]
  intro more opening same
  rw [same] at single
  simpa using single opening

theorem length_halved_le (text : List Char) : (halved text).length ≤ text.length := by
  fun_induction halved text with
  | case1 => exact Nat.le_refl 0
  | case2 rest ih => simp only [List.length_cons]; omega
  | case3 c rest _ ih => exact Nat.succ_le_succ ih

theorem halved_eq_self_iff (text : List Char) : halved text = text ↔ ¬ ['{', '{'] <:+: text := by
  fun_induction halved text with
  | case1 => simp
  | case2 rest ih =>
      have shorter := length_halved_le rest
      constructor
      · intro same
        have lengths := congrArg List.length same
        simp only [List.length_cons] at lengths
        omega
      · intro absent
        exact absurd (List.prefix_append ['{', '{'] rest).isInfix absent
  | case3 c rest single ih =>
      rw [List.cons.injEq, ih, List.infix_cons_iff]
      have head : ¬ ['{', '{'] <+: c :: rest := by
        intro doubled
        obtain ⟨more, same⟩ := doubled
        obtain ⟨opening, behind⟩ := List.cons.inj same
        exact single more opening.symm behind.symm
      simp [head]

def Fault.kept : Fault → List Char → List Char
  | unclosed, fragment => halved fragment
  | empty, fragment | badName, fragment | badAlignment, fragment | strayBrace, fragment => fragment

theorem Fault.kept_of_closed {fault : Fault} (closed : fault ≠ .unclosed) (fragment : List Char) :
    fault.kept fragment = fragment := by
  cases fault with
  | unclosed => contradiction
  | empty | badName | badAlignment | strayBrace => rfl

theorem Fault.kept_eq_self_iff (fault : Fault) (fragment : List Char) :
    fault.kept fragment = fragment ↔ (fault = .unclosed → ¬ ['{', '{'] <:+: fragment) := by
  by_cases closed : fault = .unclosed
  · simp [closed, kept, halved_eq_self_iff]
  · simp [closed, kept_of_closed closed]

theorem Avoids.of_append {mark : Char} {text rest : List Char} (avoids : Avoids mark (text ++ rest)) :
    Avoids mark text := by
  cases text with
  | nil => exact avoids_nil mark
  | cons c more => simpa using avoids

/-- The same step is taken where the text ends earlier. Only the reach of a brace that is never
closed changes. -/
theorem Takes.of_append {place : Nat} {part first second : List Char} {piece : Piece}
    {faults : List Diagnostic} (takes : Takes place part (first ++ second) piece faults) :
    ∃ others, Takes place part first piece others := by
  cases takes with
  | openPair => exact ⟨_, .openPair first⟩
  | closePair => exact ⟨_, .closePair first⟩
  | stray single => exact ⟨_, .stray single.of_append⟩
  | unclosed single absent =>
      have absent : '}' ∉ first := mt (List.mem_append_left second) absent
      exact ⟨_, .unclosed single.of_append absent⟩
  | fault _ single closed read => exact ⟨_, .fault first single closed read⟩
  | hole _ single closed read => exact ⟨_, .hole first single closed read⟩
  | char _ opening closing => exact ⟨_, .char first opening closing⟩

theorem Takes.exists_char {place : Nat} {part rest : List Char} {piece : Piece}
    {faults : List Diagnostic} (takes : Takes place part rest piece faults) (absent : '}' ∉ part) :
    ∃ c, piece = .literal ⟨String.ofList [c], place, place + byteLength part⟩ ∧
      halved (part ++ rest) = c :: halved rest := by
  cases takes with
  | openPair => exact ⟨'{', rfl, halved_openPair rest⟩
  | unclosed single => exact ⟨'{', rfl, halved_cons fun _ => single⟩
  | @char c _ opening => exact ⟨c, rfl, halved_cons fun same => absurd same opening⟩
  | closePair | stray | fault | hole => simp at absent

theorem attach_scanned_of_not_mem {place : Nat} {text : List Char} (absent : '}' ∉ text)
    (l : Literal) (touches : l.span.stop = place) :
    (Piece.literal l).attach (scanned place text).pieces =
      [.literal ⟨l.text ++ String.ofList (halved text), l.span.start, place + byteLength text⟩] := by
  induction place, text using scanned_induction generalizing l with
  | nil place =>
      subst touches
      simp [halved, byteLength]
  | @step place part rest piece faults parsed takes later =>
      obtain ⟨here, behind⟩ := not_or.mp (mt List.mem_append.mpr absent)
      obtain ⟨c, rfl, halves⟩ := takes.exists_char here
      rw [Parsed.report, Parsed.attach, Piece.attach_attach, later behind _ rfl, halves,
        byteLength_append, Nat.add_assoc, String.append_assoc, ← String.ofList_append,
        List.singleton_append]

/-- Where a diagnosed fragment stands in a text that begins at byte `place`, and how it stands in
the pieces of the text. -/
structure Diagnostic.Stands (place : Nat) (before part after : List Char)
    (pieces : List Piece) (diagnostic : Diagnostic) : Prop where
  span_eq : diagnostic.span =
    ⟨place + byteLength before, place + byteLength before + byteLength part⟩
  pieces_eq : pieces = spliced (scanned place before).pieces
    ((Piece.literal ⟨String.ofList (diagnostic.fault.kept part), diagnostic.span⟩).attach
      (scanned diagnostic.span.stop after).pieces)
  literal : ∃ l, Piece.literal l ∈ pieces ∧
    l.Absorbs ⟨String.ofList (diagnostic.fault.kept part), diagnostic.span⟩

theorem Diagnostic.stands_first {place : Nat} {part after : List Char} {pieces : List Piece}
    {diagnostic : Diagnostic} (span : diagnostic.span = ⟨place, place + byteLength part⟩)
    (first : pieces =
      (Piece.literal ⟨String.ofList (diagnostic.fault.kept part), diagnostic.span⟩).attach
        (scanned (place + byteLength part) after).pieces) :
    diagnostic.Stands place [] part after pieces := by
  have covered : (Piece.literal ⟨String.ofList (diagnostic.fault.kept part), diagnostic.span⟩).span =
      ⟨place, place + byteLength part⟩ := span
  refine ⟨span, ?_, ?_⟩
  · rw [scanned_nil, spliced_nil, first, span]
  · rw [first]
    exact (tiles_scanned _ after).exists_absorbs covered List.mem_cons_self

theorem Takes.stands {place : Nat} {part rest : List Char} {piece : Piece}
    {faults : List Diagnostic} (takes : Takes place part rest piece faults)
    {diagnostic : Diagnostic} (member : diagnostic ∈ faults) :
    ∃ fragment after, part ++ rest = fragment ++ after ∧
      diagnostic.Stands place [] fragment after (scanned place (part ++ rest)).pieces := by
  rw [takes.scanned_eq, Parsed.report, Parsed.attach]
  cases takes with
  | openPair | closePair | hole | char => cases member
  | stray single =>
      obtain rfl := List.mem_singleton.mp member
      exact ⟨['}'], rest, rfl, Diagnostic.stands_first rfl rfl⟩
  | unclosed single absent =>
      obtain rfl := List.mem_singleton.mp member
      have kept : Fault.unclosed.kept ('{' :: rest) = '{' :: halved rest :=
        halved_cons fun _ => single
      have stop : place + 1 + byteLength rest = place + byteLength ('{' :: rest) := by
        rw [byteLength_opening, Nat.add_assoc]
      have text : String.ofList ('{' :: halved rest) =
          String.ofList ['{'] ++ String.ofList (halved rest) := by
        rw [← String.ofList_append, List.singleton_append]
      refine ⟨'{' :: rest, [], by simp, Diagnostic.stands_first ?_ ?_⟩
      · rw [stop]
      · rw [kept, text, scanned_nil, Piece.attach_nil]
        exact attach_scanned_of_not_mem absent ⟨String.ofList ['{'], place, place + 1⟩ rfl
  | fault _ single closed read =>
      obtain rfl := List.mem_singleton.mp member
      obtain ⟨other, -⟩ := marks_of_readHole closed read
      refine ⟨_, rest, rfl, Diagnostic.stands_first rfl ?_⟩
      rw [Fault.kept_of_closed other]

theorem Diagnostic.Stands.behind {place : Nat} {part before fragment after : List Char}
    {piece : Piece} {pieces : List Piece} {faults : List Diagnostic} {diagnostic : Diagnostic}
    (takes : Takes place part (before ++ fragment ++ after) piece faults)
    (tiles : Tiles (place + byteLength part) (before ++ fragment ++ after) pieces)
    (stands : diagnostic.Stands (place + byteLength part) before fragment after pieces) :
    diagnostic.Stands place (part ++ before) fragment after (piece.attach pieces) := by
  obtain ⟨span, split, l, inside, absorbs⟩ := stands
  refine ⟨?_, ?_, ?_⟩
  · rw [span, byteLength_append, ← Nat.add_assoc]
  · rw [List.append_assoc] at takes
    obtain ⟨others, earlier⟩ := takes.of_append
    rw [earlier.scanned_eq, Parsed.report, Parsed.attach, spliced_attach, split]
  · obtain ⟨outer, member, around⟩ :=
      tiles.exists_absorbs takes.span_eq (List.mem_cons_of_mem _ inside)
    exact ⟨outer, member, around.trans absorbs⟩

theorem stands_scanned (place : Nat) (text : List Char) :
    ∀ diagnostic ∈ (scanned place text).diagnostics, ∃ before fragment after,
      text = before ++ fragment ++ after ∧
        diagnostic.Stands place before fragment after (scanned place text).pieces := by
  -- The pieces before the fragment are those of another text, so the motive keeps the scanned text.
  apply scanned_induction (motive := fun place text _ =>
    ∀ diagnostic ∈ (scanned place text).diagnostics, ∃ before fragment after,
      text = before ++ fragment ++ after ∧
        diagnostic.Stands place before fragment after (scanned place text).pieces)
  · intro place diagnostic member
    rw [scanned_nil] at member
    cases member
  · intro place part rest piece faults _ takes later diagnostic member
    rw [takes.scanned_eq] at member
    obtain here | behind := List.mem_append.mp member
    · obtain ⟨fragment, after, split, stands⟩ := takes.stands here
      exact ⟨[], fragment, after, split, stands⟩
    · obtain ⟨before, fragment, after, rfl, stands⟩ := later diagnostic behind
      refine ⟨part ++ before, fragment, after, by simp only [List.append_assoc], ?_⟩
      rw [takes.scanned_eq]
      exact stands.behind takes (tiles_scanned _ _)

namespace Template

theorem infix_of_renderText {template : Template} {properties : Properties}
    {symbols : Symbols} {rendered : String} {l : Literal} (member : .literal l ∈ template.pieces)
    (rendering : template.renderText properties symbols = .ok rendered) :
    l.text.toList <:+: rendered.toList := by
  have written := (renderText_eq_ok_iff properties symbols).mp rendering
  obtain ⟨before, after, split⟩ := List.append_of_mem member
  rw [emission, split, List.flatMap_append, List.flatMap_cons] at written
  obtain ⟨first, others, -, behind, rfl⟩ := Emission.trace_append_eq_ok written
  obtain ⟨own, last, alone, -, rfl⟩ := Emission.trace_append_eq_ok behind
  have own : l.text = own := by
    simpa [Piece.emission, Emission.trace] using congrArg Prod.fst alone
  rw [own, String.toList_append, String.toList_append, ← List.append_assoc]
  exact List.infix_append _ _ _

/-- A fragment that is no hole is kept, in its place, by the one literal that covers it, and so by
all that is rendered of the text. It is kept as it is written unless it is never closed and has a
doubled opening brace. -/
theorem fragment_kept {text : String} {diagnostic : Diagnostic}
    (member : diagnostic ∈ check text) :
    let fragment := diagnostic.span.slice text.toList
    let kept := diagnostic.fault.kept fragment
    (kept = fragment ↔ (diagnostic.fault = .unclosed → ¬ ['{', '{'] <:+: fragment)) ∧
      (∃ before after, text.toList = before ++ fragment ++ after ∧
        byteLength before = diagnostic.span.start ∧
        (parse text).pieces = spliced (Stencil.parse before).pieces
          (spliced [.literal ⟨String.ofList kept, diagnostic.span⟩]
            ((Stencil.parse after).shift diagnostic.span.stop).pieces)) ∧
      ∃ l, .literal l ∈ (parse text).pieces ∧ l.span.Encloses diagnostic.span ∧
        (∀ piece ∈ (parse text).pieces,
          piece.span.Encloses diagnostic.span → piece = .literal l) ∧
        kept <:+: l.text.toList ∧
        ∀ (properties : Properties) (symbols : Symbols) (rendered : String),
          (parse text).renderText properties symbols = .ok rendered →
            kept <:+: rendered.toList := by
  rw [check_eq_scanned] at member
  obtain ⟨before, part, after, split, span, pieces, l, inside, encloses, kept⟩ :=
    stands_scanned 0 text.toList diagnostic member
  rw [Nat.zero_add] at span
  have fragment : diagnostic.span.slice text.toList = part := by
    rw [span, split, slice_append]
  have behind : scanned diagnostic.span.stop after =
      (Stencil.parse after).shift diagnostic.span.stop := by
    rw [parse_eq_scanned, ← scanned_shift, Nat.zero_add]
  have nonempty := ((diagnosed_scanned 0 text.toList).lies diagnostic member).start_lt_stop
  rw [String.toList_ofList] at kept
  rw [fragment, pieces_parse]
  refine ⟨diagnostic.fault.kept_eq_self_iff part, ⟨before, after, split, ?_, ?_⟩, l, inside,
    encloses, ?_, kept, ?_⟩
  · rw [span]
  · rw [pieces, behind, spliced_singleton, parse_eq_scanned before]
  · intro piece other also
    exact (tiles_scanned 0 text.toList).eq_of_encloses inside nonempty encloses other also
  · intro properties symbols rendered rendering
    rw [← pieces_parse] at inside
    exact kept.trans (infix_of_renderText inside rendering)

theorem fragment_kept_doubled_brace :
    let text := "\x7b\x7b \x7bA \x7b\x7bB\x7d"
    let fragment := Span.slice ⟨3, 10⟩ text.toList
    ⟨.badName, 3, 10⟩ ∈ check text ∧ fragment = "\x7bA \x7b\x7bB\x7d".toList ∧
      ∃ l, .literal l ∈ (parse text).pieces ∧ l.span.Encloses ⟨3, 10⟩ ∧
        fragment <:+: l.text.toList := by
  intro text fragment
  have member : ⟨.badName, 3, 10⟩ ∈ check text := by decide +kernel
  obtain ⟨same, -, l, inside, encloses, -, kept, -⟩ := fragment_kept member
  rw [same.mpr nofun] at kept
  exact ⟨member, by decide +kernel, l, inside, encloses, kept⟩

/-- A fragment that is never closed loses one of its doubled braces. -/
theorem fragment_not_kept :
    let text := "\x7bA \x7b\x7bB"
    let fragment := Span.slice ⟨0, 6⟩ text.toList
    ⟨.unclosed, 0, 6⟩ ∈ check text ∧ fragment = text.toList ∧
      (∀ l, .literal l ∈ (parse text).pieces → ¬ fragment <:+: l.text.toList) ∧
      (parse text).renderText (fun _ => none) .invariant = .ok "\x7bA \x7bB" ∧
      ¬ fragment <:+: "\x7bA \x7bB".toList := by
  intro text fragment
  have whole : fragment = text.toList := by decide +kernel
  have absent : ¬ fragment <:+: "\x7bA \x7bB".toList := by
    intro inside
    rw [whole] at inside
    exact absurd inside.length_le (by decide)
  have texts : (parse text).pieces.map Piece.text = ["\x7bA \x7bB"] := by decide +kernel
  refine ⟨by decide +kernel, whole, ?_, by decide +kernel, absent⟩
  intro l member
  have same : l.text ∈ (parse text).pieces.map Piece.text := List.mem_map_of_mem member
  rw [texts] at same
  rw [List.mem_singleton.mp same]
  exact absent

end Template

end Stencil
