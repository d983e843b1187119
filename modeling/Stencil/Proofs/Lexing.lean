import Stencil.Proofs.Tiling

/-!
The lexemes of a text. Each one is the longest match of a pattern at its place, and they lie side by
side. So a longest run of braces is paired from its beginning, and the longest runs of other
characters are the lexemes of text.
-/

namespace Stencil

def braceOf (c : Char) : Option Char := if c = '{' ∨ c = '}' then some c else none

/-- A part of a text, with what is before and after it, that is a longest run of this brace, or of
characters that are no braces. -/
structure IsRun (brace : Option Char) (before run after : List Char) : Prop where
  nonempty : run ≠ []
  alike : ∀ c ∈ run, braceOf c = brace
  left : ∀ c ∈ before.getLast?, braceOf c ≠ brace
  right : ∀ c ∈ after.head?, braceOf c ≠ brace

namespace Lexeme

/-- What the patterns match: two braces, one brace, or one character and more that are no braces. -/
def IsMatch : Lexeme → Prop
  | openPair | closePair | opening | closing => True
  | text run => run ≠ [] ∧ ∀ c ∈ run, braceOf c = none

/-- As many pairs as there are in `count` braces, and a single one if a brace is left. -/
def paired (pair single : Lexeme) (count : Nat) : List Lexeme :=
  List.replicate (count / 2) pair ++ if count % 2 = 1 then [single] else []

def brace : Lexeme → Option Char
  | openPair | opening => some '{'
  | closePair | closing => some '}'
  | text _ => none

def isPair : Lexeme → Bool
  | openPair | closePair => true
  | opening | closing | text _ => false

/-- The lexeme does not grow by the text that follows: it is a pair, which takes no third brace, or
the text does not begin with a character of its kind. -/
def EndsBefore (rest : List Char) (lexeme : Lexeme) : Prop :=
  lexeme.isPair ∨ ∀ c ∈ rest.head?, braceOf c ≠ lexeme.brace

theorem brace_ne_none_of_isPair {lexeme : Lexeme} (pair : lexeme.isPair) :
    lexeme.brace ≠ none := by
  cases lexeme with
  | openPair | closePair => exact Option.some_ne_none _
  | opening | closing | text => cases pair

theorem length_source_le_of_isPair {lexeme other : Lexeme} (pair : lexeme.isPair)
    (kind : lexeme.brace = other.brace) : other.source.length ≤ lexeme.source.length := by
  cases lexeme with
  | openPair | closePair =>
      cases other with
      | openPair | closePair | opening | closing => decide
      | text => cases kind
  | opening | closing | text => cases pair

section

variable {lexeme : Lexeme} (fits : lexeme.IsMatch)
include fits

theorem IsMatch.source_ne_nil : lexeme.source ≠ [] := by
  cases lexeme with
  | text => exact fits.1
  | openPair | closePair | opening | closing => exact List.cons_ne_nil _ _

theorem IsMatch.braceOf_eq {c : Char} (member : c ∈ lexeme.source) :
    braceOf c = lexeme.brace := by
  cases lexeme with
  | text => exact fits.2 c member
  | openPair | closePair | opening | closing =>
      simp only [source, List.mem_cons, List.not_mem_nil, or_false, or_self] at member
      simp [member, braceOf, brace]

/-- A pattern that matches more takes the character behind the lexeme, and so makes it grow. -/
theorem EndsBefore.longest {rest : List Char} (ends : lexeme.EndsBefore rest) {other : Lexeme}
    (matched : other.IsMatch) (begins : other.source <+: lexeme.source ++ rest) :
    other.source.length ≤ lexeme.source.length := by
  by_contra longer
  have inside : lexeme.source <+: other.source :=
    List.prefix_of_prefix_length_le (List.prefix_append _ _) begins (by omega)
  rcases inside with ⟨more, whole⟩
  rcases List.exists_cons_of_ne_nil fits.source_ne_nil with ⟨c, chars, split⟩
  have first : c ∈ lexeme.source := split ▸ List.mem_cons_self
  have kind : lexeme.brace = other.brace := by
    rw [← fits.braceOf_eq first]
    exact matched.braceOf_eq (whole ▸ List.mem_append_left more first)
  rcases ends with pair | stops
  · exact longer (length_source_le_of_isPair pair kind)
  · cases more with
    | nil =>
        rw [← whole, List.append_nil] at longer
        exact longer (Nat.le_refl _)
    | cons d more =>
        have next : d ∈ rest.head? := by
          rw [← whole] at begins
          rcases (List.prefix_append_right_inj _).mp begins with ⟨after, rfl⟩
          rfl
        have member : d ∈ other.source :=
          whole ▸ List.mem_append_right lexeme.source List.mem_cons_self
        exact stops d next (kind ▸ matched.braceOf_eq member)

end

theorem EndsBefore.brace_ne_none {lexeme : Lexeme} {rest : List Char}
    (ends : lexeme.EndsBefore rest) {c : Char} (next : c ∈ rest.head?) (plain : braceOf c = none) :
    lexeme.brace ≠ none := by
  rcases ends with pair | stops
  · exact brace_ne_none_of_isPair pair
  · intro text
    exact stops c next (plain.trans text.symm)

end Lexeme

theorem braceOf_eq_none_iff {c : Char} : braceOf c = none ↔ c ≠ '{' ∧ c ≠ '}' := by
  simp [braceOf]

theorem braceOf_eq_some_iff {c mark : Char} (brace : mark = '{' ∨ mark = '}') :
    braceOf c = some mark ↔ c = mark := by
  simp only [braceOf, Option.ite_none_right_eq_some, Option.some.injEq, and_iff_right_iff_imp]
  rintro rfl
  exact brace

theorem avoids_iff_braceOf {mark : Char} (brace : mark = '{' ∨ mark = '}') {text : List Char} :
    Avoids mark text ↔ ∀ c ∈ text.head?, braceOf c ≠ some mark := by
  cases text with
  | nil => simp
  | cons c rest => simp [braceOf_eq_some_iff brace]

theorem consText_lexemes {rest : List Char} (ends : ∀ c ∈ rest.head?, braceOf c ≠ none)
    (c : Char) : Lexeme.consText c (lexemes rest) = .text [c] :: lexemes rest := by
  fun_cases lexemes rest with
  | case1 | case2 | case3 | case4 | case5 => rfl
  | case6 d more _ _ opening closing =>
      exact absurd (braceOf_eq_none_iff.mpr ⟨opening, closing⟩) (ends d rfl)

theorem lexemes_text {run rest : List Char} (nonempty : run ≠ [])
    (plain : ∀ c ∈ run, braceOf c = none) (ends : ∀ c ∈ rest.head?, braceOf c ≠ none) :
    lexemes (run ++ rest) = .text run :: lexemes rest := by
  induction run with
  | nil => contradiction
  | cons c others ih =>
      rcases List.forall_mem_cons.mp plain with ⟨first, later⟩
      rcases braceOf_eq_none_iff.mp first with ⟨opening, closing⟩
      rw [List.cons_append, lexemes_char _ opening closing]
      by_cases single : others = []
      · rw [single]
        exact consText_lexemes ends c
      · rw [ih single later]
        rfl

theorem Lexeme.IsMatch.lexemes_append {lexeme : Lexeme} {rest : List Char} (fits : lexeme.IsMatch)
    (ends : lexeme.EndsBefore rest) :
    lexemes (lexeme.source ++ rest) = lexeme :: lexemes rest := by
  cases lexeme with
  | openPair | closePair => simp [source, lexemes]
  | opening =>
      have single := (avoids_iff_braceOf (.inl rfl)).mpr (ends.resolve_left Bool.false_ne_true)
      exact lexemes_opening single
  | closing =>
      have single := (avoids_iff_braceOf (.inr rfl)).mpr (ends.resolve_left Bool.false_ne_true)
      exact lexemes_closing single
  | text run => exact lexemes_text fits.1 fits.2 (ends.resolve_left Bool.false_ne_true)

theorem exists_lexeme {text : List Char} (nonempty : text ≠ []) :
    ∃ (lexeme : Lexeme) (rest : List Char),
      text = lexeme.source ++ rest ∧ lexeme.IsMatch ∧ lexeme.EndsBefore rest := by
  fun_induction lexemes text with
  | case1 => contradiction
  | case2 rest => exact ⟨.openPair, rest, rfl, trivial, .inl rfl⟩
  | case3 rest => exact ⟨.closePair, rest, rfl, trivial, .inl rfl⟩
  | case4 rest single =>
      have ends := (avoids_iff_braceOf (.inl rfl)).mp (avoids_iff.mpr single)
      exact ⟨.opening, rest, rfl, trivial, .inr ends⟩
  | case5 rest single =>
      have ends := (avoids_iff_braceOf (.inr rfl)).mp (avoids_iff.mpr single)
      exact ⟨.closing, rest, rfl, trivial, .inr ends⟩
  | case6 c rest _ _ opening closing ih =>
      have plain : braceOf c = none := braceOf_eq_none_iff.mpr ⟨opening, closing⟩
      have alone : (Lexeme.text [c]).IsMatch :=
        ⟨List.cons_ne_nil c [], List.forall_mem_singleton.mpr plain⟩
      by_cases empty : rest = []
      · rw [empty]
        refine ⟨.text [c], [], rfl, alone, .inr ?_⟩
        intro d first
        cases first
      · rcases ih empty with ⟨lexeme, after, split, fits, ends⟩
        rw [split]
        cases lexeme with
        | text run =>
            have joined : (Lexeme.text (c :: run)).IsMatch :=
              ⟨List.cons_ne_nil c run, List.forall_mem_cons.mpr ⟨plain, fits.2⟩⟩
            exact ⟨.text (c :: run), after, rfl, joined, ends⟩
        | openPair | closePair | opening | closing =>
            refine ⟨.text [c], _, rfl, alone, .inr ?_⟩
            intro d first
            rcases Option.some.inj first with rfl
            exact Option.some_ne_none _

/-- What holds of no text, and is kept when a lexeme that does not grow is put in front, holds of
each text and its lexemes. -/
theorem lexemes_induction {motive : List Char → List Lexeme → Prop} (nil : motive [] [])
    (step : ∀ {lexeme : Lexeme} {rest : List Char} {later : List Lexeme}, lexeme.IsMatch →
      lexeme.EndsBefore rest → motive rest later →
        motive (lexeme.source ++ rest) (lexeme :: later))
    (text : List Char) : motive text (lexemes text) := by
  -- A lexeme takes one character or more, so the induction is on the length.
  induction length : text.length using Nat.strongRecOn generalizing text with
  | ind n ih =>
  subst length
  by_cases nonempty : text = []
  · rw [nonempty]
    exact nil
  · rcases exists_lexeme nonempty with ⟨lexeme, rest, rfl, fits, ends⟩
    have shorter : rest.length < (lexeme.source ++ rest).length := by
      have := List.length_pos_iff.mpr fits.source_ne_nil
      rw [List.length_append]
      omega
    rw [fits.lexemes_append ends]
    exact step fits ends (ih _ shorter rest rfl)

section

variable (start : Nat)

theorem placed_append (a b : List Lexeme) :
    placed start (a ++ b) =
      placed start a ++ placed (start + byteLength (a.flatMap Lexeme.source)) b := by
  induction a generalizing start with
  | nil => rfl
  | cons lexeme rest ih =>
      rw [List.cons_append, placed, placed, ih, List.flatMap_cons, byteLength_append, Nat.add_assoc]
      rfl

theorem placed_eq_nil_iff {lexed : List Lexeme} : placed start lexed = [] ↔ lexed = [] := by
  cases lexed with
  | nil => exact iff_of_true rfl rfl
  | cons => exact iff_of_false (List.cons_ne_nil _ _) (List.cons_ne_nil _ _)

theorem start_head_placed {lexed : List Lexeme} {entry : Lexeme × Span}
    (first : entry ∈ (placed start lexed).head?) : entry.2.start = start := by
  cases lexed with
  | nil => cases first
  | cons lexeme rest =>
      rcases Option.some.inj first with rfl
      rfl

theorem isChain_placed (lexed : List Lexeme) :
    (placed start lexed).IsChain fun a b => a.2.stop = b.2.start := by
  induction lexed generalizing start with
  | nil => exact .nil
  | cons lexeme rest ih =>
      apply List.isChain_cons.mpr
      refine ⟨?_, ih _⟩
      intro next first
      exact (start_head_placed _ first).symm

theorem stop_getLast_placed {lexed : List Lexeme} {entry : Lexeme × Span}
    (last : entry ∈ (placed start lexed).getLast?) :
    entry.2.stop = start + byteLength (lexed.flatMap Lexeme.source) := by
  induction lexed generalizing start with
  | nil => cases last
  | cons lexeme rest ih =>
      rw [List.flatMap_cons, byteLength_append, ← Nat.add_assoc]
      cases rest with
      | nil =>
          rcases Option.some.inj last with rfl
          rfl
      | cons next more => exact ih _ (by simpa [placed] using last)

end

/-- Each lexeme stands for a part of the text and does not grow by what is behind it, and a lexeme
of text neither by what is in front of it. -/
theorem exists_part_of_mem {place : Nat} {text : List Char} {lexeme : Lexeme} {span : Span}
    (member : (lexeme, span) ∈ placed place (lexemes text)) :
    ∃ before after, text = before ++ lexeme.source ++ after ∧
      span = ⟨place + byteLength before, place + byteLength before + byteLength lexeme.source⟩ ∧
      lexeme.IsMatch ∧ lexeme.EndsBefore after ∧
      (lexeme.brace = none → ∀ c ∈ before.getLast?, braceOf c ≠ none) := by
  induction text using lexemes_induction generalizing place with
  | nil => cases member
  | @step first rest later fits ends ih =>
      rcases List.mem_cons.mp member with same | behind
      · rcases Prod.mk.inj same with ⟨rfl, rfl⟩
        refine ⟨[], rest, rfl, rfl, fits, ends, ?_⟩
        intro _ c last
        cases last
      · rcases ih behind with ⟨before, after, rfl, rfl, matched, stops, apart⟩
        refine ⟨first.source ++ before, after, ?_, ?_, matched, stops, ?_⟩
        · simp only [List.append_assoc]
        · rw [byteLength_append, ← Nat.add_assoc]
        · intro plain c last
          cases before with
          | cons d more =>
              rw [List.getLast?_append_of_ne_nil _ (List.cons_ne_nil d more)] at last
              exact apart plain c last
          | nil =>
              -- The lexeme in front is then no text either, since it would have grown.
              rw [List.append_nil] at last
              rcases List.exists_cons_of_ne_nil matched.source_ne_nil with ⟨d, chars, split⟩
              have next : d ∈ ([] ++ lexeme.source ++ after).head? := by rw [split]; rfl
              have kind := matched.braceOf_eq (split ▸ List.mem_cons_self : d ∈ lexeme.source)
              rw [fits.braceOf_eq (List.mem_of_getLast? last)]
              exact ends.brace_ne_none next (kind.trans plain)

section

variable {text : List Char} {entry : Lexeme × Span} (member : entry ∈ placed 0 (lexemes text))
include member

theorem exists_part_of_mem_zero :
    ∃ before after, text = before ++ entry.1.source ++ after ∧
      entry.2 = ⟨byteLength before, byteLength before + byteLength entry.1.source⟩ ∧
      entry.1.IsMatch ∧ entry.1.EndsBefore after ∧
      (entry.1.brace = none → ∀ c ∈ before.getLast?, braceOf c ≠ none) := by
  rcases exists_part_of_mem member with ⟨before, after, split, span, parts⟩
  rw [Nat.zero_add] at span
  exact ⟨before, after, split, span, parts⟩

theorem start_lt_stop_of_mem : entry.2.start < entry.2.stop := by
  rcases exists_part_of_mem_zero member with ⟨before, after, split, span, fits, -⟩
  rw [span]
  exact Nat.lt_add_of_pos_right (byteLength_pos fits.source_ne_nil)

theorem source_of_mem : entry.1.source = entry.2.slice text := by
  rcases exists_part_of_mem_zero member with ⟨before, after, split, span, -⟩
  rw [span, split, slice_append]

theorem longest_of_mem :
    entry.1.IsMatch ∧ ∀ other : Lexeme, other.IsMatch →
      other.source <+: dropBytes entry.2.start text →
        other.source.length ≤ entry.1.source.length := by
  rcases exists_part_of_mem_zero member with ⟨before, after, split, span, fits, ends, -⟩
  refine ⟨fits, ?_⟩
  intro other matched begins
  rw [span, split, List.append_assoc, dropBytes_append] at begins
  exact ends.longest fits matched begins

end

theorem isValid_of_mem {text : String} {entry : Lexeme × Span}
    (member : entry ∈ placed 0 (lexemes text.toList)) :
    (⟨entry.2.start⟩ : String.Pos.Raw).IsValid text ∧
      (⟨entry.2.stop⟩ : String.Pos.Raw).IsValid text := by
  rcases exists_part_of_mem_zero member with ⟨before, after, split, span, -⟩
  rw [span]
  constructor
  · rw [List.append_assoc] at split
    exact isValid_byteLength split
  · rw [← byteLength_append]
    exact isValid_byteLength split

theorem lexemes_eq_nil_iff {text : List Char} : lexemes text = [] ↔ text = [] := by
  constructor
  · intro none
    rw [← flatMap_source_lexemes text, none]
    rfl
  · rintro rfl
    rfl

theorem lexemes_append_of_apart {before after : List Char}
    (apart : ∀ c ∈ before.getLast?, ∀ d ∈ after.head?, braceOf c ≠ braceOf d) :
    lexemes (before ++ after) = lexemes before ++ lexemes after := by
  induction before using lexemes_induction with
  | nil => rfl
  | @step lexeme rest later fits ends ih =>
      have stops : lexeme.EndsBefore (rest ++ after) := by
        cases rest with
        | cons => exact ends
        | nil =>
            right
            intro d next
            rw [List.append_nil, List.getLast?_eq_some_getLast fits.source_ne_nil] at apart
            rw [← fits.braceOf_eq (List.getLast_mem fits.source_ne_nil)]
            exact (apart _ rfl d next).symm
      have later : lexemes (rest ++ after) = later ++ lexemes after := by
        apply ih
        intro c last
        apply apart c
        rw [List.getLast?_append, Option.mem_def.mp last]
        rfl
      rw [List.append_assoc, fits.lexemes_append stops, later, List.cons_append]

theorem lexemes_replicate {mark : Char} {pair single : Lexeme}
    (doubled : ∀ rest, lexemes (mark :: mark :: rest) = pair :: lexemes rest)
    (alone : ∀ rest, Avoids mark rest → lexemes (mark :: rest) = single :: lexemes rest)
    (count : Nat) {after : List Char} (avoids : Avoids mark after) :
    lexemes (List.replicate count mark ++ after) =
      Lexeme.paired pair single count ++ lexemes after := by
  induction count using Nat.twoStepInduction with
  | zero => rfl
  | one => exact alone after avoids
  | more count ih _ =>
      have next :
          Lexeme.paired pair single (count + 2) = pair :: Lexeme.paired pair single count := by
        simp [Lexeme.paired, List.replicate_succ]
      rw [next, List.cons_append, ← ih]
      exact doubled _

namespace IsRun

variable {brace : Option Char} {before run after : List Char}

theorem lexemes_eq (isRun : IsRun brace before run after) :
    lexemes (before ++ run ++ after) = lexemes before ++ lexemes (run ++ after) := by
  rw [List.append_assoc]
  apply lexemes_append_of_apart
  intro c last d next
  rcases List.exists_cons_of_ne_nil isRun.nonempty with ⟨first, others, rfl⟩
  rcases Option.some.inj next with rfl
  rw [isRun.alike _ List.mem_cons_self]
  exact isRun.left c last

theorem placed_infix (isRun : IsRun brace before run after) {lexed : List Lexeme}
    (become : lexemes (run ++ after) = lexed ++ lexemes after) :
    placed (byteLength before) lexed <:+: placed 0 (lexemes (before ++ run ++ after)) := by
  rw [isRun.lexemes_eq, become, placed_append, placed_append, flatMap_source_lexemes, Nat.zero_add]
  exact List.infix_append' _ _ _

end IsRun

/-- Each longest run of the brace becomes pairs, and a single brace behind them if one is left. -/
def Pairs (mark : Char) (pair single : Lexeme) (text : List Char)
    (lexed : List (Lexeme × Span)) : Prop :=
  ∀ before run after, text = before ++ run ++ after → IsRun (some mark) before run after →
    placed (byteLength before) (Lexeme.paired pair single run.length) <:+: lexed

theorem pairs_lexemes {mark : Char} (known : mark = '{' ∨ mark = '}') {pair single : Lexeme}
    (doubled : ∀ rest, lexemes (mark :: mark :: rest) = pair :: lexemes rest)
    (alone : ∀ rest, Avoids mark rest → lexemes (mark :: rest) = single :: lexemes rest)
    (text : List Char) : Pairs mark pair single text (placed 0 (lexemes text)) := by
  rintro before run after rfl isRun
  have braces : run = List.replicate run.length mark := by
    apply List.eq_replicate_of_mem
    intro c member
    exact (braceOf_eq_some_iff known).mp (isRun.alike c member)
  have avoids : Avoids mark after := (avoids_iff_braceOf known).mpr isRun.right
  apply isRun.placed_infix
  calc
    lexemes (run ++ after) = lexemes (List.replicate run.length mark ++ after) := by rw [← braces]
    _ = Lexeme.paired pair single run.length ++ lexemes after :=
      lexemes_replicate doubled alone run.length avoids

theorem text_mem_placed_iff {text run : List Char} {span : Span} :
    (.text run, span) ∈ placed 0 (lexemes text) ↔
      ∃ before after, text = before ++ run ++ after ∧ IsRun none before run after ∧
        span = ⟨byteLength before, byteLength before + byteLength run⟩ := by
  constructor
  · intro member
    rcases exists_part_of_mem_zero member with ⟨before, after, split, place, fits, ends, apart⟩
    have right := ends.resolve_left Bool.false_ne_true
    exact ⟨before, after, split, ⟨fits.1, fits.2, apart rfl, right⟩, place⟩
  · rintro ⟨before, after, rfl, isRun, rfl⟩
    have become : lexemes (run ++ after) = [.text run] ++ lexemes after :=
      lexemes_text isRun.nonempty isRun.alike isRun.right
    exact (isRun.placed_infix become).subset List.mem_cons_self

/-- How the lexemes of a text lie in it, what they match, and what becomes of the longest runs. -/
structure Lexing (text : String) (lexed : List (Lexeme × Span)) : Prop where
  first : ∀ entry ∈ lexed.head?, entry.2.start = 0
  next : lexed.IsChain fun a b => a.2.stop = b.2.start
  last : ∀ entry ∈ lexed.getLast?, entry.2.stop = text.utf8ByteSize
  nil : lexed = [] ↔ text = ""
  nonempty : ∀ entry ∈ lexed, entry.2.start < entry.2.stop
  boundary : ∀ entry ∈ lexed, (⟨entry.2.start⟩ : String.Pos.Raw).IsValid text ∧
    (⟨entry.2.stop⟩ : String.Pos.Raw).IsValid text
  source : ∀ entry ∈ lexed, entry.1.source = entry.2.slice text.toList
  longest : ∀ entry ∈ lexed, entry.1.IsMatch ∧ ∀ other : Lexeme, other.IsMatch →
    other.source <+: dropBytes entry.2.start text.toList →
      other.source.length ≤ entry.1.source.length
  texts : ∀ run span, (.text run, span) ∈ lexed ↔ ∃ before after,
    text.toList = before ++ run ++ after ∧ IsRun none before run after ∧
      span = ⟨byteLength before, byteLength before + byteLength run⟩
  openings : Pairs '{' .openPair .opening text.toList lexed
  closings : Pairs '}' .closePair .closing text.toList lexed

/-- Nothing of a text is lost or taken twice, no pattern would match more where a lexeme stands, and
the longest runs of braces and of other characters are divided from their beginnings. -/
theorem lexing_lexemes (text : String) : Lexing text (placed 0 (lexemes text.toList)) := by
  constructor
  · intro entry first
    exact start_head_placed 0 first
  · exact isChain_placed 0 _
  · intro entry last
    rw [stop_getLast_placed 0 last, flatMap_source_lexemes, Nat.zero_add, byteLength_toList]
  · rw [placed_eq_nil_iff, lexemes_eq_nil_iff, String.toList_eq_nil_iff]
  · intro entry member
    exact start_lt_stop_of_mem member
  · intro entry member
    exact isValid_of_mem member
  · intro entry member
    exact source_of_mem member
  · intro entry member
    exact longest_of_mem member
  · intro run span
    exact text_mem_placed_iff
  · apply pairs_lexemes (.inl rfl)
    · intro rest
      rw [lexemes]
    · intro rest avoids
      exact lexemes_opening avoids
  · apply pairs_lexemes (.inr rfl)
    · intro rest
      rw [lexemes]
    · intro rest avoids
      exact lexemes_closing avoids

/-- A run of three braces on each side of a hole is divided from its beginning, and so not in the
same way on both sides. -/
example :
    placed 0 (lexemes "é\x7b\x7b\x7bA\x7d\x7d\x7d".toList) =
      [(.text ['é'], ⟨0, 2⟩), (.openPair, ⟨2, 4⟩), (.opening, ⟨4, 5⟩), (.text ['A'], ⟨5, 6⟩),
        (.closePair, ⟨6, 8⟩), (.closing, ⟨8, 9⟩)] := by
  decide +kernel

end Stencil
