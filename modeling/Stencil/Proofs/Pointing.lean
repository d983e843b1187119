import Stencil.Proofs.Command.Listing
import Stencil.Proofs.Diagnosis
import Stencil.Proofs.Lines
import Stencil.Report

/-!
What a report points at. The line and the column in its header are told by counting characters, up
to the number of bytes in front of the fragment. So a report points at its fragment if each of these
characters takes one byte. If one of them takes more, it points behind its start, or at nothing.
-/

namespace Stencil

theorem length_le_byteLength (text : List Char) : text.length ≤ byteLength text := by
  induction text with
  | nil => exact Nat.le_refl _
  | cons c rest ih =>
      rw [List.length_cons, byteLength, Nat.add_comm]
      exact Nat.add_le_add c.utf8Size_pos ih

theorem byteLength_eq_length_iff {text : List Char} :
    byteLength text = text.length ↔ ∀ c ∈ text, c.utf8Size = 1 := by
  induction text with
  | nil => simp [byteLength]
  | cons c rest ih =>
      have least := length_le_byteLength rest
      have positive := c.utf8Size_pos
      rw [List.forall_mem_cons, ← ih, byteLength, List.length_cons]
      omega

namespace Report

def header (filename : String) (number column : Nat) : List Char :=
  shade .frame ['╭'] ++ shade .frame ['─'] ++ shade .frame ['[']
    ++ (filename.toList ++ ':' :: digits number ++ ':' :: digits column) ++ shade .frame [']']

theorem heading_eq (filename : String) (line : Line) (start : Nat) :
    heading filename line start = header filename line.number (start - line.start + 1) := rfl

/-- The report points at this line and column in its header, and has the message below it. -/
def Shows (report : List Char) (filename : String) (number column : Nat) (message : String) :
    Prop :=
  ∃ indent below,
    report =
        title ++ ['\n'] ++ (blanks indent ++ header filename number column ++ ['\n']) ++ below ∧
      message.toList <:+: below

section

variable {filename : String} {number column line place : Nat} {rest more : List Char}

theorem header_append_inj (same : header filename number column ++ rest =
    header filename line place ++ more) : number = line ∧ column = place ∧ rest = more := by
  have colon (after : List Char) : ∀ c ∈ (':' :: after).head?, c.isDigit = false := by
    rintro c ⟨⟩
    rfl
  have escape (after : List Char) :
      ∀ c ∈ (shade .frame [']'] ++ after).head?, c.isDigit = false := by
    rintro c ⟨⟩
    rfl
  simp only [header, List.append_assoc, List.append_cancel_left_eq, List.cons_append,
    List.cons.injEq, true_and] at same
  obtain ⟨lines, behind⟩ := Command.digits_append_inj (colon _) (colon _) same
  obtain ⟨columns, left⟩ :=
    Command.digits_append_inj (escape _) (escape _) (List.cons.inj behind).2
  exact ⟨lines, columns, List.append_cancel_left left⟩

theorem blanks_append_header_inj {indent shift : Nat}
    (same : blanks indent ++ header filename number column ++ rest =
      blanks shift ++ header filename line place ++ more) :
    number = line ∧ column = place ∧ rest = more := by
  have blank (count : Nat) : ∀ c ∈ blanks count, (c == ' ') = true := by
    intro c member
    exact beq_iff_eq.mpr (List.eq_of_mem_replicate member)
  have escape (number column : Nat) (after : List Char) :
      ∀ c ∈ (header filename number column ++ after).head?, (c == ' ') = false := by
    rintro c ⟨⟩
    rfl
  rw [List.append_assoc, List.append_assoc] at same
  obtain ⟨-, headers⟩ :=
    run_append_inj (· == ' ') (blank _) (blank _) (escape _ _ _) (escape _ _ _) same
  exact header_append_inj headers

theorem shows_iff {indent : Nat} {below : List Char} {message : String} :
    Shows (title ++ ['\n'] ++ (blanks indent ++ header filename number column ++ ['\n']) ++ below)
        filename line place message ↔
      number = line ∧ column = place ∧ message.toList <:+: below := by
  constructor
  · rintro ⟨shift, told, same, within⟩
    rw [List.append_assoc, List.append_assoc (title ++ _)] at same
    have headers := List.append_cancel_left same
    rw [List.append_assoc, List.append_assoc (blanks shift ++ _)] at headers
    obtain ⟨lines, columns, behind⟩ := blanks_append_header_inj headers
    rw [List.append_cancel_left behind]
    exact ⟨lines, columns, within⟩
  · rintro ⟨rfl, rfl, within⟩
    exact ⟨indent, below, rfl, within⟩

end

theorem not_shows_title {filename : String} {number column : Nat} {message : String} :
    ¬ Shows (title ++ ['\n']) filename number column message := by
  rintro ⟨indent, below, same, -⟩
  simp at same

section

variable {diagnostic : Diagnostic} {source : List Char}

theorem lines_of_beyond (filename : String)
    (beyond : source.length < diagnostic.span.start ∨ source.length < diagnostic.span.stop - 1) :
    lines diagnostic source filename = [title] :=
  if_pos beyond

theorem letter_mem_message (fault : Fault) : 'l' ∈ fault.message.toList := by
  cases fault <;> decide +kernel

theorem letter_not_mem_shade (kind : Shade) {text : List Char} (free : 'l' ∉ text) :
    'l' ∉ shade kind text := by
  have code : 'l' ∉ kind.code := by cases kind <;> decide +kernel
  simp [shade, code, free]

theorem infix_flatMap_of_mem {part line : List Char} {shown : List (List Char)}
    (inside : part <:+: line) (member : line ∈ shown) :
    part <:+: shown.flatMap (· ++ ['\n']) := by
  have ended : line ++ ['\n'] ∈ shown.map (· ++ ['\n']) := List.mem_map_of_mem member
  have whole : line <:+: line ++ ['\n'] := (List.prefix_append _ _).isInfix
  exact inside.trans (whole.trans (List.infix_of_mem_flatten ended))

/-- The header of a report is told by the start of the fragment. The message is left out where the
fragment ends one character behind the text. -/
theorem exists_lines (filename : String) (start : diagnostic.span.start ≤ source.length)
    (stop : diagnostic.span.stop - 1 ≤ source.length) :
    let line := lineAt diagnostic.span.start source
    ∃ indent shown, lines diagnostic source filename =
        title :: (blanks indent ++ heading filename line diagnostic.span.start) :: shown ∧
      (diagnostic.fault.message.toList <:+: shown.flatMap (· ++ ['\n']) ↔
        diagnostic.span.stop - 1 ≠ source.length) := by
  intro line
  have inside :
      ¬ (source.length < diagnostic.span.start ∨ source.length < diagnostic.span.stop - 1) :=
    not_or.mpr ⟨Nat.not_lt.mpr start, Nat.not_lt.mpr stop⟩
  rw [lines, if_neg inside]
  refine ⟨_, _, rfl, ?_⟩
  split
  · next last =>
    refine ⟨fun within => ?_, fun other => absurd last other⟩
    have letter := within.subset (letter_mem_message diagnostic.fault)
    simp [letter_not_mem_shade, margin, blanks] at letter
  · next other =>
    refine ⟨fun _ => other, fun _ => ?_⟩
    let before := margin (digits line.number).length ++ arrow diagnostic.span line ++ [' ']
    have given : diagnostic.fault.message.toList <:+: before ++ diagnostic.fault.message.toList :=
      (List.suffix_append _ _).isInfix
    apply infix_flatMap_of_mem given
    simp [before, line]

end

theorem toList_report (diagnostic : Diagnostic) (text filename : String) :
    (diagnostic.report text filename).toList =
      (lines diagnostic text.toList filename).flatMap (· ++ ['\n']) :=
  String.toList_ofList

section

variable {diagnostic : Diagnostic} {text : String}

theorem report_of_beyond (filename : String)
    (beyond : text.length < diagnostic.span.stop - 1) :
    (diagnostic.report text filename).toList = title ++ ['\n'] := by
  rw [toList_report, lines_of_beyond filename (.inr beyond)]
  rfl

theorem exists_report (filename : String) (start : diagnostic.span.start ≤ text.length)
    (stop : diagnostic.span.stop - 1 ≤ text.length) :
    let line := lineAt diagnostic.span.start text.toList
    let place := heading filename line diagnostic.span.start
    ∃ indent below, (diagnostic.report text filename).toList =
        title ++ ['\n'] ++ (blanks indent ++ place ++ ['\n']) ++ below ∧
      (diagnostic.fault.message.toList <:+: below ↔ diagnostic.span.stop - 1 ≠ text.length) := by
  obtain ⟨indent, shown, split, message⟩ := exists_lines filename start stop
  refine ⟨indent, _, ?_, message⟩
  rw [toList_report, split, List.flatMap_cons, List.flatMap_cons, ← List.append_assoc]

end

end Report

namespace Template

open Report

/-- A report shows the fragment of its diagnostic, by line and column, and tells its fault, if and
only if each character in front of the fragment takes one byte, and the fragment does not end, in
bytes, behind the characters of the text. As in `Report.lines`, lines end at line feeds, and each
character, a tab too, is taken to be one column wide. -/
theorem report_shows_iff {text : String} {diagnostic : Diagnostic}
    (member : diagnostic ∈ check text) (filename : String) :
    let before := takeBytes diagnostic.span.start text.toList
    byteLength before = diagnostic.span.start ∧
      (Shows (diagnostic.report text filename).toList filename (lineBehind before)
          (columnBehind before) diagnostic.fault.message ↔
        (∀ c ∈ before, c.utf8Size = 1) ∧ diagnostic.span.stop ≤ text.length) := by
  rw [check_eq_scanned] at member
  have lies := (diagnosed_scanned 0 text.toList).lies diagnostic member
  obtain ⟨before, part, after, whole, marks, span, -⟩ := lies.exists_part
  have start : diagnostic.span.start = byteLength before := congrArg Span.start span
  have nonempty := lies.start_lt_stop
  have rest : part ++ after ≠ [] := fun empty => marks.ne_nil (List.append_eq_nil_iff.mp empty).1
  rw [List.append_assoc] at whole
  intro taken
  have same : taken = before :=
    (congrArg₂ takeBytes start whole).trans (takeBytes_append before _)
  rw [same, ← byteLength_eq_length_iff, ← start]
  refine ⟨rfl, ?_⟩
  obtain beyond | inside := Nat.lt_or_ge text.length (diagnostic.span.stop - 1)
  · rw [report_of_beyond filename beyond]
    constructor
    · intro shows
      exact absurd shows not_shows_title
    · rintro ⟨-, stop⟩
      omega
  obtain ⟨indent, below, report, message⟩ := exists_report filename (by omega) inside
  rw [report, heading_eq, shows_iff, message]
  -- A line and a column belong to one offset only: there are as many bytes as characters.
  constructor
  · rintro ⟨line, column, other⟩
    rw [whole] at line column
    exact ⟨eq_length_of_lineAt rest line column, by omega⟩
  · rintro ⟨length, stop⟩
    obtain ⟨line, column⟩ := @lineAt_append before _ rest
    rw [← whole, ← length] at line column
    exact ⟨line, column, by omega⟩

theorem report_shows_second_line :
    let text := "a\n\x7bB C\x7d é"
    let diagnostic : Diagnostic := ⟨.badName, 2, 7⟩
    diagnostic ∈ check text ∧
      Shows (diagnostic.report text "template").toList "template" 2 1
        diagnostic.fault.message := by
  intro text diagnostic
  have member : diagnostic ∈ check text := by decide +kernel
  obtain ⟨-, shows⟩ := report_shows_iff member "template"
  have before : takeBytes diagnostic.span.start text.toList = ['a', '\n'] := by decide +kernel
  have short : ∀ c ∈ ['a', '\n'], c.utf8Size = 1 := byteLength_eq_length_iff.mp (by decide)
  rw [before] at shows
  exact ⟨member, shows.mpr ⟨short, by decide +kernel⟩⟩

/-- With a character of two bytes in front of it, a brace is shown a column behind its own, and
without its message. -/
theorem report_shows_elsewhere :
    let text := "é\x7d"
    let diagnostic : Diagnostic := ⟨.strayBrace, 2, 3⟩
    let before := takeBytes diagnostic.span.start text.toList
    let report := (diagnostic.report text "template").toList
    diagnostic ∈ check text ∧ lineBehind before = 1 ∧ columnBehind before = 2 ∧
      (∃ indent below, report =
        title ++ ['\n'] ++ (blanks indent ++ header "template" 1 3 ++ ['\n']) ++ below) ∧
      ¬ diagnostic.fault.message.toList <:+: report ∧
      ¬ Shows report "template" 1 2 diagnostic.fault.message := by
  intro text diagnostic before report
  have brace : '}' ∈ diagnostic.fault.message.toList := by decide +kernel
  have absent : '}' ∉ report := by
    have shown : report = _ := toList_report diagnostic text "template"
    rw [shown]
    decide +kernel
  have silent : ¬ diagnostic.fault.message.toList <:+: report := fun within =>
    absent (within.subset brace)
  have start : diagnostic.span.start ≤ text.length := by decide +kernel
  have stop : diagnostic.span.stop - 1 ≤ text.length := by decide +kernel
  have line : (lineAt diagnostic.span.start text.toList).number = 1 := by decide +kernel
  have first : (lineAt diagnostic.span.start text.toList).start = 0 := by decide +kernel
  refine ⟨by decide +kernel, by decide +kernel, by decide +kernel, ?_, silent, ?_⟩
  · obtain ⟨indent, below, same, -⟩ := exists_report "template" start stop
    rw [heading_eq, line, first] at same
    exact ⟨indent, below, same⟩
  · rintro ⟨indent, below, same, within⟩
    rw [same] at silent
    exact silent (within.trans (List.suffix_append _ _).isInfix)

end Template

end Stencil
