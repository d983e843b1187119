import Stencil.Proofs.Tiling

namespace Stencil

def Fault.Marks (part : List Char) : Fault → Prop
  | strayBrace => part = ['}']
  | empty => part = ['{', '}']
  | badName | badAlignment =>
      ∃ content, part = '{' :: content ++ ['}'] ∧ content ≠ [] ∧ '}' ∉ content
  | unclosed => ∃ content, part = '{' :: content ∧ '}' ∉ content

namespace Fault.Marks

variable {part : List Char} {fault : Fault}

theorem ne_nil (marks : fault.Marks part) : part ≠ [] := by
  cases fault with
  | strayBrace | empty =>
      rw [show part = _ from marks]
      exact List.cons_ne_nil _ _
  | badName | badAlignment | unclosed =>
      rcases marks with ⟨content, rfl, -⟩
      exact List.cons_ne_nil _ _

theorem closing_mem (marks : fault.Marks part) (closed : fault ≠ .unclosed) : '}' ∈ part := by
  cases fault with
  | unclosed => exact absurd rfl closed
  | strayBrace | empty =>
      rw [show part = _ from marks]
      decide
  | badName | badAlignment =>
      rcases marks with ⟨content, rfl, -⟩
      simp

end Fault.Marks

theorem marks_of_readHole {content : List Char} {place : Nat} {fault : Fault}
    (closed : '}' ∉ content) (read : readHole content place = .error fault) :
    fault ≠ .unclosed ∧ fault.Marks ('{' :: content ++ ['}']) := by
  unfold readHole at read
  cases sigil : splitSigil (sections content).name with
  | mk hint name =>
  simp only [sigil] at read
  split at read
  · next empty =>
      rcases Except.error.inj read with rfl
      rw [List.isEmpty_iff.mp empty]
      exact ⟨nofun, rfl⟩
  next filled =>
  have nonempty : content ≠ [] := mt List.isEmpty_iff.mpr filled
  have part : ∃ inner, '{' :: content ++ ['}'] = '{' :: inner ++ ['}'] ∧ inner ≠ [] ∧
      '}' ∉ inner := ⟨content, rfl, nonempty, closed⟩
  split at read
  · rcases Except.error.inj read with rfl
    exact ⟨nofun, part⟩
  split at read
  · cases read
  split at read
  · rcases Except.error.inj read with rfl
    exact ⟨nofun, part⟩
  · cases read

def Span.Encloses (outer inner : Span) : Prop :=
  outer.start ≤ inner.start ∧ inner.stop ≤ outer.stop

theorem Span.encloses_self (span : Span) : span.Encloses span :=
  ⟨Nat.le_refl _, Nat.le_refl _⟩

theorem Span.Encloses.trans {outer span inner : Span} (first : outer.Encloses span)
    (second : span.Encloses inner) : outer.Encloses inner :=
  ⟨Nat.le_trans first.1 second.1, Nat.le_trans second.2 first.2⟩

/-- The first literal covers all that the second one covers, and its text holds the other text. -/
def Literal.Absorbs (outer inner : Literal) : Prop :=
  outer.span.Encloses inner.span ∧ inner.text.toList <:+: outer.text.toList

theorem Literal.absorbs_self (l : Literal) : l.Absorbs l :=
  ⟨l.span.encloses_self, List.infix_rfl⟩

theorem Literal.Absorbs.trans {outer l inner : Literal} (first : outer.Absorbs l)
    (second : l.Absorbs inner) : outer.Absorbs inner :=
  ⟨first.1.trans second.1, second.2.trans first.2⟩

namespace Diagnostic

/-- The diagnostic is about a part of the text, which begins at byte `place`. What is never closed
reaches to the end of the text. -/
def LiesIn (place : Nat) (text : List Char) (diagnostic : Diagnostic) : Prop :=
  ∃ before part after, text = before ++ part ++ after ∧ diagnostic.fault.Marks part ∧
    diagnostic.span = ⟨place + byteLength before, place + byteLength before + byteLength part⟩ ∧
    (diagnostic.fault = .unclosed → after = [])

/-- `a` begins before `b`. It also ends before it, or neither of them is ever closed. -/
structure Precedes (a b : Diagnostic) : Prop where
  start : a.span.start < b.span.start
  apart : a.fault ≠ .unclosed → a.span.stop ≤ b.span.start
  last : a.fault = .unclosed → b.fault = .unclosed

theorem precedes_of_closed {a b : Diagnostic} (closed : a.fault ≠ .unclosed)
    (nonempty : a.span.start < a.span.stop) (apart : a.span.stop ≤ b.span.start) :
    a.Precedes b :=
  ⟨Nat.lt_of_lt_of_le nonempty apart, fun _ => apart, fun same => absurd same closed⟩

namespace LiesIn

variable {place : Nat} {text rest : List Char} {diagnostic : Diagnostic}

theorem behind (lies : diagnostic.LiesIn (place + byteLength text) rest) :
    diagnostic.LiesIn place (text ++ rest) := by
  rcases lies with ⟨before, part, after, rfl, marks, span, last⟩
  refine ⟨text ++ before, part, after, ?_, marks, ?_, last⟩
  · simp only [List.append_assoc]
  · rw [span, byteLength_append, ← Nat.add_assoc]

theorem le_start (lies : diagnostic.LiesIn place text) : place ≤ diagnostic.span.start := by
  rcases lies with ⟨before, part, after, -, -, span, -⟩
  rw [span]
  exact Nat.le_add_right place _

theorem start_lt_stop (lies : diagnostic.LiesIn place text) :
    diagnostic.span.start < diagnostic.span.stop := by
  rcases lies with ⟨before, part, after, -, marks, span, -⟩
  have size := byteLength_pos marks.ne_nil
  rw [span]
  exact Nat.lt_add_of_pos_right size

theorem fault_eq (lies : diagnostic.LiesIn place text) (absent : '}' ∉ text) :
    diagnostic.fault = .unclosed := by
  rcases lies with ⟨before, part, after, rfl, marks, -⟩
  apply Classical.byContradiction
  intro closed
  have inside := marks.closing_mem closed
  exact absent (List.mem_append_left after (List.mem_append_right before inside))

section

variable {text : List Char} {source : String}

theorem exists_part (lies : diagnostic.LiesIn 0 text) :
    ∃ before part after, text = before ++ part ++ after ∧ diagnostic.fault.Marks part ∧
      diagnostic.span = ⟨byteLength before, byteLength before + byteLength part⟩ ∧
      (diagnostic.fault = .unclosed → after = []) := by
  simpa only [LiesIn, Nat.zero_add] using lies

theorem marks_slice (lies : diagnostic.LiesIn 0 text) :
    diagnostic.fault.Marks (diagnostic.span.slice text) := by
  rcases lies.exists_part with ⟨before, part, after, rfl, marks, span, -⟩
  rw [span, slice_append]
  exact marks

theorem unclosed_rest (lies : diagnostic.LiesIn 0 text) (unclosed : diagnostic.fault = .unclosed) :
    diagnostic.span.stop = byteLength text ∧ '}' ∉ dropBytes diagnostic.span.start text := by
  rcases lies.exists_part with ⟨before, part, after, rfl, marks, span, last⟩
  rw [unclosed] at marks
  rcases marks with ⟨content, rfl, absent⟩
  rw [last unclosed, List.append_nil, span, byteLength_append, dropBytes_append]
  refine ⟨rfl, ?_⟩
  simpa using absent

theorem isValid (lies : diagnostic.LiesIn 0 source.toList) :
    (⟨diagnostic.span.start⟩ : String.Pos.Raw).IsValid source ∧
      (⟨diagnostic.span.stop⟩ : String.Pos.Raw).IsValid source := by
  rcases lies.exists_part with ⟨before, part, after, split, -, span, -⟩
  rw [span]
  constructor
  · rw [List.append_assoc] at split
    exact isValid_byteLength split
  · rw [← byteLength_append]
    exact isValid_byteLength split

end

end LiesIn

theorem exists_suffix {diagnostics : List Diagnostic} (ordered : diagnostics.Pairwise Precedes) :
    ∃ closed unclosed, diagnostics = closed ++ unclosed ∧
      (∀ diagnostic ∈ closed, diagnostic.fault ≠ .unclosed) ∧
      ∀ diagnostic ∈ unclosed, diagnostic.fault = .unclosed := by
  induction diagnostics with
  | nil => exact ⟨[], [], rfl, nofun, nofun⟩
  | cons first rest ih =>
      rcases List.pairwise_cons.mp ordered with ⟨precedes, ordered⟩
      by_cases open_end : first.fault = .unclosed
      · refine ⟨[], first :: rest, rfl, nofun, ?_⟩
        intro next member
        rcases List.mem_cons.mp member with rfl | later
        · exact open_end
        · exact (precedes next later).last open_end
      · rcases ih ordered with ⟨closed, unclosed, rfl, others, last⟩
        exact ⟨first :: closed, unclosed, rfl, List.forall_mem_cons.mpr ⟨open_end, others⟩, last⟩

end Diagnostic

namespace Tiles

variable {place : Nat} {text part rest : List Char} {piece : Piece} {pieces : List Piece}

/-- Joining literals takes nothing out of a literal. -/
theorem exists_absorbs (tiles : Tiles (place + byteLength part) rest pieces)
    (span : piece.span = ⟨place, place + byteLength part⟩) {l : Literal}
    (member : .literal l ∈ piece :: pieces) :
    ∃ outer, .literal outer ∈ piece.attach pieces ∧ outer.Absorbs l := by
  rcases piece.attach_cases pieces with separate | ⟨a, b, more, rfl, rfl, joined⟩
  · rw [separate]
    exact ⟨l, member, l.absorbs_self⟩
  rw [joined]
  cases tiles with
  | cons _ next =>
  have first : a.span = _ := span
  have second : b.span = _ := next
  rcases List.mem_cons.mp member with same | member
  · rcases Piece.literal.inj same with rfl
    refine ⟨_, List.mem_cons_self, ⟨Nat.le_refl _, ?_⟩, ?_⟩
    · rw [first, second]
      exact Nat.le_add_right _ _
    · rw [String.toList_append]
      exact (List.prefix_append _ _).isInfix
  rcases List.mem_cons.mp member with same | member
  · rcases Piece.literal.inj same with rfl
    refine ⟨_, List.mem_cons_self, ⟨?_, Nat.le_refl _⟩, ?_⟩
    · rw [first, second]
      exact Nat.le_add_right _ _
    · rw [String.toList_append]
      exact (List.suffix_append _ _).isInfix
  · exact ⟨l, List.mem_cons_of_mem _ member, l.absorbs_self⟩

theorem pairwise (tiles : Tiles place text pieces) :
    pieces.Pairwise fun a b => a.span.stop ≤ b.span.start := by
  induction tiles with
  | nil => exact .nil
  | cons nonempty span covers tiles ih =>
      apply List.pairwise_cons.mpr
      refine ⟨?_, ih⟩
      intro next member
      rcases tiles.exists_part member with ⟨before, part, after, -, -, -, range⟩
      rw [span, range]
      exact Nat.le_add_right _ _

theorem exists_only (tiles : Tiles place text pieces) (member : piece ∈ pieces) {inner : Span}
    (nonempty : inner.start < inner.stop) (encloses : piece.span.Encloses inner) :
    ∃ before after, pieces = before ++ piece :: after ∧
      ∀ other ∈ before ++ after, ¬ other.span.Encloses inner := by
  rcases List.append_of_mem member with ⟨before, after, rfl⟩
  rcases List.pairwise_append.mp tiles.pairwise with ⟨-, behind, across⟩
  refine ⟨before, after, rfl, ?_⟩
  intro other inside also
  rcases encloses with ⟨start, stop⟩
  rcases also with ⟨first, last⟩
  have empty : inner.stop ≤ inner.start := by
    rcases List.mem_append.mp inside with earlier | later
    · calc
        inner.stop ≤ other.span.stop := last
        _ ≤ piece.span.start := across other earlier piece List.mem_cons_self
        _ ≤ inner.start := start
    · calc
        inner.stop ≤ piece.span.stop := stop
        _ ≤ other.span.start := (List.pairwise_cons.mp behind).1 other later
        _ ≤ inner.start := first
  exact absurd nonempty (Nat.not_lt.mpr empty)

theorem eq_of_encloses (tiles : Tiles place text pieces) (member : piece ∈ pieces) {inner : Span}
    (nonempty : inner.start < inner.stop) (encloses : piece.span.Encloses inner) {other : Piece}
    (inside : other ∈ pieces) (also : other.span.Encloses inner) : other = piece := by
  obtain ⟨before, after, rfl, only⟩ := tiles.exists_only member nonempty encloses
  simp only [List.mem_append, List.mem_cons] at inside
  obtain earlier | same | later := inside
  · exact absurd also (only other (List.mem_append_left after earlier))
  · exact same
  · exact absurd also (only other (List.mem_append_right before later))

end Tiles

namespace Takes

variable {place : Nat} {part rest : List Char} {piece : Piece} {faults : List Diagnostic}

theorem liesIn (takes : Takes place part rest piece faults) {diagnostic : Diagnostic}
    (member : diagnostic ∈ faults) : diagnostic.LiesIn place (part ++ rest) := by
  cases takes with
  | openPair | closePair | hole | char => cases member
  | stray =>
      rcases List.mem_singleton.mp member with rfl
      exact ⟨[], ['}'], rest, rfl, rfl, rfl, nofun⟩
  | unclosed single absent =>
      rcases List.mem_singleton.mp member with rfl
      refine ⟨[], '{' :: rest, [], ?_, ⟨rest, rfl, absent⟩, ?_, fun _ => rfl⟩
      · simp
      · exact congrArg (Span.mk place) (Nat.add_assoc place 1 (byteLength rest))
  | fault _ single closed read =>
      rcases List.mem_singleton.mp member with rfl
      rcases marks_of_readHole closed read with ⟨other, marks⟩
      exact ⟨[], _, rest, rfl, marks, rfl, fun same => absurd same other⟩

theorem pairwise_faults (takes : Takes place part rest piece faults)
    (related : Diagnostic → Diagnostic → Prop) : faults.Pairwise related := by
  cases takes <;> simp

theorem precedes (takes : Takes place part rest piece faults) {diagnostic later : Diagnostic}
    (member : diagnostic ∈ faults) (behind : later.LiesIn (place + byteLength part) rest) :
    diagnostic.Precedes later := by
  have size := byteLength_pos takes.part_ne_nil
  have apart := behind.le_start
  cases takes with
  | openPair | closePair | hole | char => cases member
  | stray =>
      rcases List.mem_singleton.mp member with rfl
      exact Diagnostic.precedes_of_closed nofun (Nat.lt_add_of_pos_right size) apart
  | unclosed single absent =>
      rcases List.mem_singleton.mp member with rfl
      refine ⟨?_, fun closed => absurd rfl closed, fun same => behind.fault_eq absent⟩
      exact Nat.lt_of_lt_of_le (Nat.lt_add_of_pos_right size) apart
  | fault _ single closed read =>
      rcases List.mem_singleton.mp member with rfl
      rcases marks_of_readHole closed read with ⟨other, -⟩
      exact Diagnostic.precedes_of_closed other (Nat.lt_add_of_pos_right size) apart

theorem exists_eq_literal (takes : Takes place part rest piece faults) (absent : '}' ∉ part) :
    ∃ l, piece = .literal l := by
  cases takes with
  | hole => simp at absent
  | openPair | closePair | stray | unclosed | fault | char => exact ⟨_, rfl⟩

end Takes

def IsPlain (pieces : List Piece) : Prop := pieces = [] ∨ ∃ l, pieces = [.literal l]

theorem IsPlain.attach {pieces : List Piece} (plain : IsPlain pieces) (a : Literal) :
    IsPlain ((Piece.literal a).attach pieces) := by
  rcases plain with rfl | ⟨b, rfl⟩
  · exact .inr ⟨a, rfl⟩
  · exact .inr ⟨_, rfl⟩

/-- Each diagnostic of a step lies in the literal that the step adds to. A brace that is never
closed does because all that follows it is one literal. -/
theorem Takes.exists_encloses {place : Nat} {part rest : List Char} {piece : Piece}
    {faults : List Diagnostic} {pieces : List Piece} (takes : Takes place part rest piece faults)
    (tiles : Tiles (place + byteLength part) rest pieces) (plain : '}' ∉ rest → IsPlain pieces)
    {diagnostic : Diagnostic} (member : diagnostic ∈ faults) :
    ∃ l, .literal l ∈ piece.attach pieces ∧ l.span.Encloses diagnostic.span := by
  have span := takes.span_eq
  cases takes with
  | openPair | closePair | hole | char => cases member
  | stray | fault =>
      rcases List.mem_singleton.mp member with rfl
      obtain ⟨l, inside, absorbs⟩ := tiles.exists_absorbs span List.mem_cons_self
      exact ⟨l, inside, absorbs.1⟩
  | unclosed single absent =>
      rcases List.mem_singleton.mp member with rfl
      rcases plain absent with rfl | ⟨b, rfl⟩
      · rcases tiles.eq_nil_iff.mp rfl with rfl
        exact ⟨_, List.mem_cons_self, Nat.le_refl _, Nat.le_refl _⟩
      · have stop := tiles.stop_getLast rfl
        exact ⟨_, List.mem_cons_self, Nat.le_refl _, Nat.le_of_eq stop.symm⟩

/-- The text, which begins at byte `place`, is parsed so that each diagnostic has its place in the
text, in the order, and in a literal. -/
structure Diagnosed (place : Nat) (text : List Char) (parsed : Parsed) : Prop where
  tiles : Tiles place text parsed.pieces
  lies : ∀ diagnostic ∈ parsed.diagnostics, diagnostic.LiesIn place text
  ordered : parsed.diagnostics.Pairwise Diagnostic.Precedes
  plain : '}' ∉ text → IsPlain parsed.pieces
  literal : ∀ diagnostic ∈ parsed.diagnostics,
    ∃ l, .literal l ∈ parsed.pieces ∧ l.span.Encloses diagnostic.span

theorem Takes.diagnosed {place : Nat} {part rest : List Char} {piece : Piece}
    {faults : List Diagnostic} {parsed : Parsed} (takes : Takes place part rest piece faults)
    (later : Diagnosed (place + byteLength part) rest parsed) :
    Diagnosed place (part ++ rest) ((parsed.attach piece).report faults) := by
  constructor
  · exact .attach takes.part_ne_nil takes.span_eq takes.covers later.tiles
  · intro diagnostic member
    rcases List.mem_append.mp member with here | behind
    · exact takes.liesIn here
    · exact (later.lies diagnostic behind).behind
  · apply List.pairwise_append.mpr
    refine ⟨takes.pairwise_faults _, later.ordered, ?_⟩
    intro diagnostic here next behind
    exact takes.precedes here (later.lies next behind)
  · intro absent
    rcases not_or.mp (mt List.mem_append.mpr absent) with ⟨here, behind⟩
    rcases takes.exists_eq_literal here with ⟨a, rfl⟩
    exact (later.plain behind).attach a
  · intro diagnostic member
    rcases List.mem_append.mp member with here | behind
    · exact takes.exists_encloses later.tiles later.plain here
    · rcases later.literal diagnostic behind with ⟨l, inside, encloses⟩
      obtain ⟨outer, inside, absorbs⟩ :=
        later.tiles.exists_absorbs takes.span_eq (List.mem_cons_of_mem _ inside)
      exact ⟨outer, inside, absorbs.1.trans encloses⟩

theorem diagnosed_scanned (place : Nat) (text : List Char) :
    Diagnosed place text (scanned place text) := by
  induction place, text using scanned_induction with
  | nil place => exact ⟨.nil place, nofun, .nil, fun _ => .inl rfl, nofun⟩
  | step takes later => exact takes.diagnosed later

structure Diagnosis (text : String) (pieces : List Piece) (diagnostics : List Diagnostic) :
    Prop where
  nonempty : ∀ diagnostic ∈ diagnostics, diagnostic.span.start < diagnostic.span.stop
  boundary : ∀ diagnostic ∈ diagnostics,
    (⟨diagnostic.span.start⟩ : String.Pos.Raw).IsValid text ∧
      (⟨diagnostic.span.stop⟩ : String.Pos.Raw).IsValid text
  marks : ∀ diagnostic ∈ diagnostics, diagnostic.fault.Marks (diagnostic.span.slice text.toList)
  ordered : diagnostics.Pairwise Diagnostic.Precedes
  suffix : ∃ closed unclosed, diagnostics = closed ++ unclosed ∧
    (∀ diagnostic ∈ closed, diagnostic.fault ≠ .unclosed) ∧
    ∀ diagnostic ∈ unclosed, diagnostic.fault = .unclosed
  unclosed : ∀ diagnostic ∈ diagnostics, diagnostic.fault = .unclosed →
    diagnostic.span.stop = text.utf8ByteSize ∧ '}' ∉ dropBytes diagnostic.span.start text.toList
  literal : ∀ diagnostic ∈ diagnostics, ∃ before l after,
    pieces = before ++ .literal l :: after ∧ l.span.Encloses diagnostic.span ∧
      ∀ other ∈ before ++ after, ¬ other.span.Encloses diagnostic.span

/-- The fragments that are no holes, each in its place. -/
theorem Template.diagnosis_check (text : String) :
    Diagnosis text (parse text).pieces (check text) := by
  rw [pieces_parse, check_eq_scanned]
  have diagnosed := diagnosed_scanned 0 text.toList
  constructor
  · intro diagnostic member
    exact (diagnosed.lies diagnostic member).start_lt_stop
  · intro diagnostic member
    exact (diagnosed.lies diagnostic member).isValid
  · intro diagnostic member
    exact (diagnosed.lies diagnostic member).marks_slice
  · exact diagnosed.ordered
  · exact Diagnostic.exists_suffix diagnosed.ordered
  · intro diagnostic member unclosed
    rw [← byteLength_toList]
    exact (diagnosed.lies diagnostic member).unclosed_rest unclosed
  · intro diagnostic member
    rcases diagnosed.literal diagnostic member with ⟨l, inside, encloses⟩
    have nonempty := (diagnosed.lies diagnostic member).start_lt_stop
    rcases diagnosed.tiles.exists_only inside nonempty encloses with ⟨before, after, split, only⟩
    exact ⟨before, l, after, split, encloses, only⟩

/-- Braces that are never closed: what follows the first of them is part of both fragments. -/
example :
    (Template.check "\x7bA \x7bB").map Diagnostic.span = [⟨0, 5⟩, ⟨3, 5⟩] := by decide +kernel

end Stencil
