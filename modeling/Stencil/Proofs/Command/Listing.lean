import Stencil.Proofs.Command.Running
import Stencil.Proofs.Quoting
import Stencil.Proofs.Reading
import Stencil.Proofs.Reprinting

namespace Stencil

/-- A piece that its line can be told from: the name of a hole has no blank and no line break, and
the alignment fits its signed form. -/
def Piece.IsListable : Piece → Prop
  | literal _ => True
  | hole h => isName h.name.toList ∧ ∀ alignment ∈ h.alignment, alignment.IsWritable

theorem Piece.IsReadable.isListable {piece : Piece} (readable : piece.IsReadable) :
    piece.IsListable := by
  cases piece with
  | literal l => trivial
  | hole h =>
      obtain ⟨spelling, valid, same⟩ := readable
      rw [same]
      constructor
      · rw [Spelling.hole, String.toList_ofList]
        exact valid.name
      · intro alignment present
        obtain ⟨text, written, read⟩ := Option.bind_eq_some_iff.mp present
        obtain ⟨told, reads, -, writable⟩ := (valid.alignment text written).exists_told
        rw [Option.some.inj (read.symm.trans reads)]
        exact writable

namespace Command

section

variable {rest more : List Char}

theorem isDigit_of_mem_digits {n : Nat} {c : Char} (member : c ∈ digits n) : c.isDigit :=
  Nat.isDigit_of_mem_toDigits (by decide) (by decide) member

theorem digits_append_inj {a b : Nat} (ends : ∀ c ∈ rest.head?, c.isDigit = false)
    (stops : ∀ c ∈ more.head?, c.isDigit = false) (same : digits a ++ rest = digits b ++ more) :
    a = b ∧ rest = more := by
  obtain ⟨run, behind⟩ := run_append_inj Char.isDigit (fun _ => isDigit_of_mem_digits)
    (fun _ => isDigit_of_mem_digits) ends stops same
  exact ⟨toDigits_inj (by decide) (by decide) run, behind⟩

theorem padLeft_append_inj {width a b : Nat} (ends : ∀ c ∈ rest.head?, c.isDigit = false)
    (stops : ∀ c ∈ more.head?, c.isDigit = false)
    (same : padLeft width (digits a) ++ rest = padLeft width (digits b) ++ more) :
    a = b ∧ rest = more := by
  have blanks (n : Nat) : ∀ c ∈ List.replicate n ' ', (c == ' ') = true := by
    intro c member
    exact beq_iff_eq.mpr (List.eq_of_mem_replicate member)
  have number (n : Nat) (after : List Char) :
      ∀ c ∈ (digits n ++ after).head?, (c == ' ') = false := by
    intro c first
    have nonempty : digits n ≠ [] := Nat.toDigits_ne_nil
    rw [List.head?_append_of_ne_nil _ nonempty] at first
    have digit := isDigit_of_mem_digits (List.mem_of_head? first)
    rw [beq_eq_false_iff_ne]
    rintro rfl
    cases digit
  rw [padLeft, padLeft, List.append_assoc, List.append_assoc] at same
  obtain ⟨-, numbers⟩ :=
    run_append_inj (· == ' ') (blanks _) (blanks _) (number a rest) (number b more) same
  exact digits_append_inj ends stops numbers

theorem padRight_append_inj {width a b : Nat}
    (same : padRight width (digits a) ++ ' ' :: rest = padRight width (digits b) ++ ' ' :: more) :
    a = b ∧ rest = more := by
  have blank (n : Nat) (after : List Char) :
      ∀ c ∈ (List.replicate n ' ' ++ ' ' :: after).head?, c.isDigit = false := by
    cases n <;> simp [List.replicate_succ]
  rw [padRight, padRight, List.append_assoc, List.append_assoc] at same
  obtain ⟨rfl, behind⟩ := digits_append_inj (blank _ rest) (blank _ more) same
  exact ⟨rfl, (List.cons.inj (List.append_cancel_left behind)).2⟩

theorem place_append_inj {a b : Span}
    (same : padLeft 4 (digits a.start) ++ "..".toList ++ padRight 4 (digits a.stop) ++ ' ' :: rest =
      padLeft 4 (digits b.start) ++ "..".toList ++ padRight 4 (digits b.stop) ++ ' ' :: more) :
    a = b ∧ rest = more := by
  simp only [List.append_assoc] at same
  have point (after : List Char) : ∀ c ∈ ("..".toList ++ after).head?, c.isDigit = false := by
    rintro c ⟨⟩
    rfl
  obtain ⟨start, behind⟩ := padLeft_append_inj (point _) (point _) same
  obtain ⟨stop, left⟩ := padRight_append_inj (List.append_cancel_left behind)
  have span : a = b := by
    cases a
    cases b
    exact congr (congrArg Span.mk start) stop
  exact ⟨span, left⟩

/-- What stands behind a part of a line: the end of the line, or a part whose label begins with one
of these letters. -/
def Follows (letters : List Char) (text : List Char) : Prop :=
  text.head? = some '\n' ∨ text.head? = some ' ' ∧ ∃ letter ∈ letters, text[1]? = some letter

def field {α : Type} (label : String) (code : α → List Char) : Option α → List Char
  | none => []
  | some value => ' ' :: label.toList ++ code value

theorem Follows.head {letters : List Char} (follows : Follows letters rest) {kind : Char → Bool}
    (line : kind '\n' = false) (blank : kind ' ' = false) : ∀ c ∈ rest.head?, kind c = false := by
  intro c first
  obtain ends | ⟨ends, -⟩ := follows
  · obtain rfl := Option.some.inj (ends.symm.trans first)
    exact line
  · obtain rfl := Option.some.inj (ends.symm.trans first)
    exact blank

section

variable {α : Type} {letter : Char} {letters : List Char} {label : String}

theorem Follows.field (begins : label.toList.head? = some letter) (follows : Follows letters rest)
    (code : α → List Char) (value : Option α) :
    Follows (letter :: letters) (field label code value ++ rest) := by
  cases value with
  | none =>
      obtain ends | ⟨blank, other, member, second⟩ := follows
      · exact .inl ends
      · exact .inr ⟨blank, other, List.mem_cons_of_mem letter member, second⟩
  | some value =>
      obtain ⟨tail, split⟩ := List.head?_eq_some_iff.mp begins
      refine .inr ⟨rfl, letter, List.mem_cons_self, ?_⟩
      rw [Command.field, split]
      rfl

theorem Follows.ne_field (follows : Follows letters rest)
    (begins : label.toList.head? = some letter) (apart : letter ∉ letters) (text : List Char) :
    rest ≠ ' ' :: label.toList ++ text := by
  obtain ⟨tail, split⟩ := List.head?_eq_some_iff.mp begins
  rw [split]
  rintro rfl
  obtain ends | ⟨-, other, member, second⟩ := follows
  · cases ends
  · obtain rfl := Option.some.inj second
    exact apart member

theorem field_append_inj (begins : label.toList.head? = some letter) (apart : letter ∉ letters)
    {code : α → List Char} {first second : Option α} (ends : Follows letters rest)
    (stops : Follows letters more)
    (tells : ∀ a ∈ first, ∀ b ∈ second, code a ++ rest = code b ++ more → a = b ∧ rest = more)
    (same : Command.field label code first ++ rest = Command.field label code second ++ more) :
    first = second ∧ rest = more := by
  cases first with
  | none =>
      cases second with
      | none => exact ⟨rfl, same⟩
      | some b =>
          rw [Command.field, Command.field, List.append_assoc] at same
          exact absurd same (ends.ne_field begins apart _)
  | some a =>
      cases second with
      | none =>
          rw [Command.field, Command.field, List.append_assoc] at same
          exact absurd same.symm (stops.ne_field begins apart _)
      | some b =>
          rw [Command.field, Command.field, List.append_assoc, List.append_assoc] at same
          obtain ⟨rfl, behind⟩ := tells a rfl b rfl (List.append_cancel_left same)
          exact ⟨rfl, behind⟩

end

theorem intercalate_blank (first : List Char) (others : List (List Char)) :
    [' '].intercalate (first :: others) = first ++ others.flatMap (' ' :: ·) := by
  induction others generalizing first with
  | nil => simp
  | cons next others ih => rw [List.intercalate_cons_cons, ih, List.flatMap_cons]; simp

theorem flatMap_field {α : Type} (label : String) (code : α → List Char) (value : Option α) :
    (value.toList.map fun value => label.toList ++ code value).flatMap (' ' :: ·) =
      field label code value := by
  cases value <;> simp [field]

theorem describe_literal (l : Literal) :
    describe (.literal l) = "literal      ".toList ++ (quoted l.text).toList := by
  unfold describe
  dsimp only

def alignmentField (h : Hole) : List Char :=
  field "alignment=" (fun alignment => signedDigits alignment.signed.toInt) h.alignment

def formatField (h : Hole) : List Char :=
  field "format=" (fun format => (quoted format).toList) h.format

def hintField (h : Hole) : List Char := field "hint=" (fun sigil => [sigil]) h.hint.sigil

theorem describe_hole (h : Hole) :
    describe (.hole h) = "placeholder  ".toList ++ ("name=".toList ++ h.name.toList
      ++ (alignmentField h ++ (formatField h ++ hintField h))) := by
  unfold describe
  dsimp only
  rw [details, List.append_assoc, List.append_assoc, List.singleton_append, intercalate_blank,
    List.flatMap_append, List.flatMap_append, flatMap_field, flatMap_field, flatMap_field]
  rfl

theorem isNameChar_space : isNameChar '\n' = false ∧ isNameChar ' ' = false := by decide +kernel

theorem name_append_inj {letters : List Char} {a b : String} (first : isName a.toList)
    (second : isName b.toList) (ends : Follows letters rest) (stops : Follows letters more)
    (same : a.toList ++ rest = b.toList ++ more) : a = b ∧ rest = more := by
  obtain ⟨line, blank⟩ := isNameChar_space
  have all {text : List Char} (name : isName text) : ∀ c ∈ text, isNameChar c := by
    rw [isName, Bool.and_eq_true, List.all_eq_true] at name
    exact name.2
  obtain ⟨names, behind⟩ := run_append_inj isNameChar (all first) (all second)
    (ends.head line blank) (stops.head line blank) same
  exact ⟨String.toList_inj.mp names, behind⟩

theorem alignment_append_inj {letters : List Char} {a b : Alignment} (first : a.IsWritable)
    (second : b.IsWritable) (ends : Follows letters rest) (stops : Follows letters more)
    (same : signedDigits a.signed.toInt ++ rest = signedDigits b.signed.toInt ++ more) :
    a = b ∧ rest = more := by
  have all (n : Int) : ∀ c ∈ signedDigits n, (c.isDigit || c == '-') = true := by
    intro c member
    unfold signedDigits at member
    split at member
    · obtain rfl | member := List.mem_cons.mp member
      · rfl
      · rw [isDigit_of_mem_digits member, Bool.true_or]
    · rw [isDigit_of_mem_digits member, Bool.true_or]
  obtain ⟨numbers, behind⟩ := run_append_inj (fun c => c.isDigit || c == '-') (all _) (all _)
    (ends.head rfl rfl) (stops.head rfl rfl) same
  have read : some a = some b := by
    rw [← Alignment.readAlignment_signedDigits first, numbers,
      Alignment.readAlignment_signedDigits second]
  exact ⟨Option.some.inj read, behind⟩

theorem Hint.sigil_inj {a b : Hint} (same : a.sigil = b.sigil) : a = b := by
  cases a <;> cases b <;> first | rfl | cases same

theorem hole_append_inj {a b : Hole} (first : (Piece.hole a).IsListable)
    (second : (Piece.hole b).IsListable)
    (same : describe (.hole a) ++ '\n' :: rest = describe (.hole b) ++ '\n' :: more) :
    (Piece.hole a == Piece.hole b) = true ∧ rest = more := by
  have line (text : List Char) : Follows [] ('\n' :: text) := .inl rfl
  have hint (h : Hole) (text : List Char) : Follows ['h'] (hintField h ++ '\n' :: text) :=
    (line text).field rfl _ _
  have format (h : Hole) (text : List Char) :
      Follows ['f', 'h'] (formatField h ++ (hintField h ++ '\n' :: text)) :=
    (hint h text).field rfl _ _
  have alignment (h : Hole) (text : List Char) :
      Follows ['a', 'f', 'h']
        (alignmentField h ++ (formatField h ++ (hintField h ++ '\n' :: text))) :=
    (format h text).field rfl _ _
  rw [describe_hole, describe_hole] at same
  simp only [List.append_assoc, List.append_cancel_left_eq] at same
  obtain ⟨name, same⟩ := name_append_inj first.1 second.1 (alignment a rest) (alignment b more) same
  obtain ⟨aligned, same⟩ := field_append_inj rfl (by decide) (format a rest) (format b more)
    (fun _ left _ right =>
      alignment_append_inj (first.2 _ left) (second.2 _ right) (format a rest) (format b more))
    same
  obtain ⟨formatted, same⟩ := field_append_inj rfl (by decide) (hint a rest) (hint b more)
    (fun _ _ _ _ => quoted_append_inj) same
  obtain ⟨sigil, same⟩ := field_append_inj rfl (by decide) (line rest) (line more)
    (fun _ _ _ _ => by simp) same
  have hinted := Hint.sigil_inj sigil
  have alike : (a.name == b.name && a.alignment == b.alignment && a.format == b.format
      && a.hint == b.hint) = true := by
    simp [name, aligned, formatted, hinted]
  exact ⟨alike, (List.cons.inj same).2⟩

theorem describe_append_inj {a b : Piece} (first : a.IsListable) (second : b.IsListable)
    (same : describe a ++ '\n' :: rest = describe b ++ '\n' :: more) :
    (a == b) = true ∧ rest = more := by
  have kinds (text other : List Char) :
      "literal      ".toList ++ text ≠ "placeholder  ".toList ++ other := by
    intro equal
    have heads := congrArg List.head? equal
    simp at heads
  cases a with
  | literal l =>
      cases b with
      | literal other =>
          rw [describe_literal, describe_literal, List.append_assoc, List.append_assoc] at same
          obtain ⟨text, behind⟩ := quoted_append_inj (List.append_cancel_left same)
          have alike : (l.text == other.text) = true := beq_iff_eq.mpr text
          exact ⟨alike, (List.cons.inj behind).2⟩
      | hole h =>
          simp only [describe_literal, describe_hole, List.append_assoc] at same
          exact absurd same (kinds _ _)
  | hole h =>
      cases b with
      | literal other =>
          simp only [describe_literal, describe_hole, List.append_assoc] at same
          exact absurd same.symm (kinds _ _)
      | hole other => exact hole_append_inj first second same

/-- A line tells the piece up to its spelling, the bytes it covers, and where the line ends. -/
theorem listingLine_append_inj {a b : Piece} (first : a.IsListable) (second : b.IsListable)
    (same : listingLine a ++ rest = listingLine b ++ more) :
    (a == b) = true ∧ a.span = b.span ∧ rest = more := by
  have parts (piece : Piece) (text : List Char) : listingLine piece ++ text =
      padLeft 4 (digits piece.span.start) ++ "..".toList ++ padRight 4 (digits piece.span.stop)
        ++ ' ' :: (describe piece ++ '\n' :: text) := by
    simp only [listingLine, List.append_assoc, List.cons_append, List.nil_append]
  rw [parts, parts] at same
  obtain ⟨span, behind⟩ := place_append_inj same
  obtain ⟨alike, left⟩ := describe_append_inj first second behind
  exact ⟨alike, span, left⟩

theorem listingLine_ne_nil (piece : Piece) : listingLine piece ≠ [] :=
  List.append_ne_nil_of_right_ne_nil _ (List.cons_ne_nil _ _)

theorem flatMap_listingLine_inj {pieces others : List Piece}
    (first : ∀ piece ∈ pieces, piece.IsListable) (second : ∀ piece ∈ others, piece.IsListable)
    (same : pieces.flatMap listingLine = others.flatMap listingLine) :
    (pieces == others) = true ∧ pieces.map Piece.span = others.map Piece.span := by
  induction pieces generalizing others with
  | nil =>
      cases others with
      | nil => exact ⟨rfl, rfl⟩
      | cons b next =>
          have lines := List.append_eq_nil_iff.mp same.symm
          exact absurd lines.1 (listingLine_ne_nil b)
  | cons a more ih =>
      cases others with
      | nil =>
          have lines := List.append_eq_nil_iff.mp same
          exact absurd lines.1 (listingLine_ne_nil a)
      | cons b next =>
          obtain ⟨listable, later⟩ := List.forall_mem_cons.mp first
          obtain ⟨other, behind⟩ := List.forall_mem_cons.mp second
          rw [List.flatMap_cons, List.flatMap_cons] at same
          obtain ⟨alike, span, left⟩ := listingLine_append_inj listable other same
          obtain ⟨equal, spans⟩ := ih later behind left
          constructor
          · rw [List.cons_beq_cons, alike, equal, Bool.and_self]
          · rw [List.map_cons, List.map_cons, span, spans]

end

section

theorem not_mem_digits (n : Nat) : '\n' ∉ digits n := by
  intro member
  cases isDigit_of_mem_digits member

theorem not_mem_field {α : Type} {label : String} {code : α → List Char} {value : Option α}
    (inside : '\n' ∉ label.toList) (absent : ∀ a ∈ value, '\n' ∉ code a) :
    '\n' ∉ field label code value := by
  cases value with
  | none => exact List.not_mem_nil
  | some a => simp [field, inside, absent a rfl]

theorem not_mem_describe {piece : Piece} (listable : piece.IsListable) :
    '\n' ∉ describe piece := by
  cases piece with
  | literal l =>
      rw [describe_literal]
      simp [not_mem_quoted]
  | hole h =>
      have name : '\n' ∉ h.name.toList :=
        no_mark_of_isName listable.1 isNameChar_space.1
      have alignment : '\n' ∉ alignmentField h := by
        apply not_mem_field (by decide)
        intro alignment _ member
        unfold signedDigits at member
        split at member <;> simp [not_mem_digits] at member
      have format : '\n' ∉ formatField h :=
        not_mem_field (by decide) fun text _ => not_mem_quoted text
      have hint : '\n' ∉ hintField h := by
        apply not_mem_field (by decide)
        intro sigil present
        cases hinted : h.hint <;> rw [hinted] at present <;> cases present <;> decide
      rw [describe_hole]
      simp [name, alignment, format, hint]

theorem count_listingLine {piece : Piece} (listable : piece.IsListable) :
    (listingLine piece).count '\n' = 1 := by
  have front : '\n' ∉ padLeft 4 (digits piece.span.start) ++ "..".toList
      ++ padRight 4 (digits piece.span.stop) ++ ' ' :: describe piece := by
    simp [padLeft, padRight, not_mem_digits, not_mem_describe listable]
  rw [listingLine, List.count_append, List.count_eq_zero_of_not_mem front]
  rfl

theorem count_listing {pieces : List Piece} (listable : ∀ piece ∈ pieces, piece.IsListable) :
    (pieces.flatMap listingLine).count '\n' = pieces.length := by
  induction pieces with
  | nil => rfl
  | cons piece rest ih =>
      obtain ⟨first, others⟩ := List.forall_mem_cons.mp listable
      rw [List.flatMap_cons, List.count_append, count_listingLine first, ih others,
        List.length_cons, Nat.add_comm]

end

theorem isListable_parse (text : String) :
    ∀ piece ∈ (Template.parse text).pieces, piece.IsListable := by
  intro piece member
  rw [Template.pieces_parse] at member
  exact (isReadable_scanned 0 text.toList piece member).isListable

structure Lists (files : String → Option ByteArray) (input : ByteArray) (arguments : Arguments)
    (text : String) : Prop where
  config : ∃ config, loadConfig files arguments = .ok config
  template : loadTemplate input arguments = .ok text
  tokens : arguments.tokens
  unchecked : arguments.check = false

theorem Lists.run_eq {files : String → Option ByteArray} {input : ByteArray}
    {arguments : Arguments} {text : String} (lists : Lists files input arguments text) :
    run files input arguments = .success (listing (Template.parse text).pieces) := by
  obtain ⟨config, loaded⟩ := lists.config
  rw [run, loaded, lists.template]
  simp [process_eq, lists.unchecked, lists.tokens]

/-- The token list of a text has one line for each piece, and texts with the same token list are
parsed as the same pieces at the same places. -/
theorem listing_faithful {files : String → Option ByteArray} {input : ByteArray}
    {arguments : Arguments} {text : String} (lists : Lists files input arguments text) :
    (run files input arguments).code = 0 ∧
      (run files input arguments).out.toList.count '\n' = (Template.parse text).pieces.length ∧
      ∀ (files' : String → Option ByteArray) (input' : ByteArray) (arguments' : Arguments)
        (text' : String), Lists files' input' arguments' text' →
        (run files input arguments).out = (run files' input' arguments').out →
        ((Template.parse text).pieces == (Template.parse text').pieces) = true ∧
          (Template.parse text).pieces.map Piece.span =
            (Template.parse text').pieces.map Piece.span := by
  rw [lists.run_eq]
  refine ⟨rfl, ?_, ?_⟩
  · rw [Outcome.success, listing, String.toList_ofList]
    exact count_listing (isListable_parse text)
  · intro files' input' arguments' text' others same
    rw [others.run_eq] at same
    have lines : (Template.parse text).pieces.flatMap listingLine =
        (Template.parse text').pieces.flatMap listingLine := String.ofList_inj.mp same
    exact flatMap_listingLine_inj (isListable_parse text) (isListable_parse text') lines

theorem listing_faithful_respelled :
    let files : String → Option ByteArray := fun _ => none
    let arguments (text : String) : Arguments := ⟨some text, [], none, true, false⟩
    let first := "\x7bA,05\x7d"
    let second := "\x7bA,5:\x7d"
    Lists files .empty (arguments first) first ∧ Lists files .empty (arguments second) second ∧
      (run files .empty (arguments first)).out = "   0..6    placeholder  name=A alignment=5\n" ∧
      (run files .empty (arguments second)).out = "   0..6    placeholder  name=A alignment=5\n" ∧
      ((Template.parse first).pieces == (Template.parse second).pieces) = true ∧
      (Template.parse first).pieces.map Piece.span =
        (Template.parse second).pieces.map Piece.span := by
  intro files arguments first second
  have lists (text : String) : Lists files .empty (arguments text) text := ⟨⟨_, rfl⟩, rfl, rfl, rfl⟩
  have one : (run files .empty (arguments first)).out =
      "   0..6    placeholder  name=A alignment=5\n" := by decide +kernel
  have other : (run files .empty (arguments second)).out =
      "   0..6    placeholder  name=A alignment=5\n" := by decide +kernel
  obtain ⟨-, -, told⟩ := listing_faithful (lists first)
  obtain ⟨alike, spans⟩ := told files .empty (arguments second) second (lists second)
    (one.trans other.symm)
  exact ⟨lists first, lists second, one, other, alike, spans⟩

end Command

end Stencil
