import Stencil.Proofs.Scanning
import Stencil.Template.Basic

/-!
The parser and the scanner agree. The parser works on lexemes and may hold an unread half of a
doubled brace; the scanner sees that half as the next character. Between two lexemes the parser has
still to do what the scanner does with the unread characters, behind the run of literal text so far.
-/

namespace Stencil

namespace Progress

/-- The characters ahead, `text` being those of the lexemes ahead. -/
def unread (progress : Progress) (text : List Char) : List Char :=
  if progress.half then '}' :: text else text

def before (progress : Progress) (parsed : Parsed) : Parsed :=
  ⟨progress.literal.foldr Piece.attach parsed.pieces, parsed.diagnostics⟩

@[simp] theorem settle_half (progress : Progress) : progress.settle.half = false := by
  unfold settle
  split <;> simp_all

theorem settle_of_not_half {progress : Progress} (settled : progress.half = false) :
    progress.settle = progress := by
  simp [settle, settled]

theorem settled_of_not_half {progress : Progress} (settled : progress.half = false) :
    progress.settled = [] := by
  simp [Progress.settled, settled]

theorem unread_of_not_half {progress : Progress} (settled : progress.half = false)
    (text : List Char) : progress.unread text = text := by
  simp [unread, settled]

theorem settle_of_half {progress : Progress} (half : progress.half) :
    progress.settle = { progress.take ['}'] 1 with half := false } := by
  simp [settle, half]

theorem settled_of_half {progress : Progress} (half : progress.half) :
    progress.settled = [progress.stray] := by
  simp [Progress.settled, half]

theorem unread_of_half {progress : Progress} (half : progress.half) (text : List Char) :
    progress.unread text = '}' :: text := by
  simp [unread, half]

theorem before_report (progress : Progress) (faults : List Diagnostic) (parsed : Parsed) :
    progress.before (parsed.report faults) = (progress.before parsed).report faults := rfl

theorem before_none (offset : Nat) (half : Bool) (parsed : Parsed) :
    before ⟨offset, half, none⟩ parsed = parsed := rfl

theorem before_done (progress : Progress) :
    progress.before ⟨[], []⟩ = ⟨progress.literal, []⟩ := by
  rcases progress with ⟨offset, half, run⟩
  cases run <;> rfl

theorem before_take (progress : Progress) (text : List Char) (size : Nat) (parsed : Parsed) :
    (progress.take text size).before parsed =
      progress.before (parsed.attach
        (.literal ⟨String.ofList text, progress.offset, progress.offset + size⟩)) := by
  rcases progress with ⟨offset, half, run⟩
  cases run with
  | none => rfl
  | some run =>
      simp only [before, literal, take, Parsed.attach, Option.toList_some, List.map_cons,
        List.map_nil, List.foldr_cons, List.foldr_nil, Piece.attach_attach]

theorem before_hole (progress : Progress) (hole : Hole) (parsed : Parsed) :
    progress.before (parsed.attach (.hole hole)) =
      parsed.follow (progress.literal ++ [.hole hole]) := by
  rcases progress with ⟨offset, half, run⟩
  cases run <;> simp [before, literal, Parsed.attach, Parsed.follow, Piece.attach]

theorem take_take (progress : Progress) (a b : List Char) (m n : Nat) :
    (progress.take a m).take b n = progress.take (a ++ b) (m + n) := by
  rcases progress with ⟨offset, half, run⟩
  cases run <;> simp [take, String.ofList_append, String.append_assoc, Nat.add_assoc]

theorem offset_settle (progress : Progress) (text : List Char) :
    progress.settle.offset + byteLength text =
      progress.offset + byteLength (progress.unread text) := by
  cases half : progress.half with
  | false => rw [settle_of_not_half half, unread_of_not_half half]
  | true =>
      rw [settle_of_half half, unread_of_half half, byteLength_closing, ← Nat.add_assoc]
      rfl

/-- Before a text that begins with no closing brace, an unread brace is a stray one. -/
theorem before_unread (progress : Progress) (text : List Char) (single : Avoids '}' text) :
    progress.before (scanned progress.offset (progress.unread text)) =
      (progress.settle.before (scanned progress.settle.offset text)).report progress.settled := by
  cases half : progress.half with
  | false =>
      rw [settle_of_not_half half, settled_of_not_half half, unread_of_not_half half,
        Parsed.report_nil]
  | true =>
      rw [settle_of_half half, settled_of_half half, unread_of_half half,
        scanned_stray _ _ single, before_report]
      exact congrArg (Parsed.report [progress.stray]) (before_take progress ['}'] 1 _).symm

end Progress

theorem parseLexemes_text (size : Nat) (progress : Progress) (run : List Char)
    (rest : List Lexeme) :
    parseLexemes size progress (.text run :: rest) =
      (parseLexemes size (progress.settle.take run (byteLength run)) rest).report
        progress.settled := by
  rw [parseLexemes]

theorem parseLexemes_consText (size : Nat) (progress : Progress) (c : Char)
    (lexemes : List Lexeme) :
    parseLexemes size progress (Lexeme.consText c lexemes) =
      (parseLexemes size (progress.settle.take [c] c.utf8Size) lexemes).report
        progress.settled := by
  have single : byteLength [c] = c.utf8Size := by simp [byteLength]
  cases lexemes with
  | nil =>
      rw [Lexeme.consText, parseLexemes_text, single]
      simp
  | cons lexeme rest =>
      cases lexeme with
      | text run =>
          have unhalved : (progress.settle.take [c] c.utf8Size).half = false :=
            progress.settle_half
          rw [Lexeme.consText, parseLexemes_text, parseLexemes_text,
            Progress.settle_of_not_half unhalved, Progress.settled_of_not_half unhalved,
            Parsed.report_nil, Progress.take_take]
          rfl
      | openPair | closePair | opening | closing =>
          rw [Lexeme.consText, parseLexemes_text, single]
          simp

theorem parseLexemes_unclosed {size : Nat} {progress : Progress} {rest : List Lexeme}
    (unclosed : upToClose rest = none) :
    parseLexemes size progress (.opening :: rest) =
      (parseLexemes size (progress.settle.take ['{'] 1) rest).report
        (progress.settled ++ [⟨.unclosed, progress.settle.offset, size⟩]) := by
  rw [parseLexemes]
  split
  · rfl
  · next found =>
      rw [unclosed] at found
      cases found

theorem parseLexemes_fragment {size : Nat} {progress : Progress} {rest after : List Lexeme}
    {content : List Char} {pair : Bool} {parsed : Parsed}
    (closed : upToClose rest = some (content, pair, after))
    (later : ∀ next : Progress, next.half = pair →
      next.offset = progress.settle.offset + byteLength ('{' :: content ++ ['}']) →
        parseLexemes size next after = next.before parsed) :
    parseLexemes size progress (.opening :: rest) =
      (progress.settle.before
        ((parsed.attach (scanFragment content progress.settle.offset).1.piece).report
          (scanFragment content progress.settle.offset).2)).report progress.settled := by
  rw [parseLexemes]
  split
  · next found =>
      rw [closed] at found
      cases found
  · next found =>
      rw [closed] at found
      cases found
      rw [scanFragment]
      cases readHole content progress.settle.offset with
      | ok hole =>
          simp only
          rw [later _ rfl rfl, Progress.before_none, Fragment.piece, Parsed.report_nil,
            Progress.before_hole]
      | error fault =>
          simp only
          rw [later _ rfl rfl, Progress.before_report, Parsed.report_report, Fragment.piece,
            ← Progress.before_take]
          rfl

theorem upToClose_consText (c : Char) (lexemes : List Lexeme) :
    upToClose (Lexeme.consText c lexemes) =
      (upToClose lexemes).map fun (text, pair, after) => (c :: text, pair, after) := by
  cases lexemes with
  | nil => rfl
  | cons lexeme rest =>
      cases lexeme with
      | text run => simp [Lexeme.consText, upToClose, Lexeme.source, Function.comp_def]
      | openPair | closePair | opening | closing =>
          simp [Lexeme.consText, upToClose, Lexeme.source]

theorem upToClose_lexemes_eq_none {text before : List Char}
    (cut : cutAt '}' text = (before, none)) : upToClose (lexemes text) = none := by
  have absent : '}' ∉ text := (cutAt_eq_none cut).2
  clear cut
  fun_induction lexemes text with
  | case1 => rfl
  | case2 rest ih =>
      have later : '}' ∉ rest := by simpa using absent
      simp [upToClose, ih later]
  | case4 rest single ih =>
      have later : '}' ∉ rest := by simpa using absent
      simp [upToClose, ih later]
  | case3 rest | case5 rest => simp at absent
  | case6 c rest _ _ _ _ ih =>
      have later : '}' ∉ rest := mt (List.mem_cons_of_mem c) absent
      rw [upToClose_consText, ih later, Option.map_none]

theorem upToClose_lexemes {text content after : List Char}
    (cut : cutAt '}' text = (content, some after)) :
    ∃ pair rest, upToClose (lexemes text) = some (content, pair, lexemes rest) ∧
      after = if pair then '}' :: rest else rest := by
  fun_induction lexemes text generalizing content with
  | case1 => simp [cutAt] at cut
  | case2 rest ih =>
      rw [cutAt_cons (by decide), cutAt_cons (by decide)] at cut
      rcases Prod.mk.inj cut with ⟨rfl, found⟩
      rcases ih (Prod.ext rfl found) with ⟨pair, more, close, split⟩
      exact ⟨pair, more, by simp [upToClose, close, Lexeme.source], split⟩
  | case3 rest =>
      rw [cutAt_self] at cut
      cases cut
      exact ⟨true, rest, by simp [upToClose], rfl⟩
  | case4 rest single ih =>
      rw [cutAt_cons (by decide)] at cut
      rcases Prod.mk.inj cut with ⟨rfl, found⟩
      rcases ih (Prod.ext rfl found) with ⟨pair, more, close, split⟩
      exact ⟨pair, more, by simp [upToClose, close, Lexeme.source], split⟩
  | case5 rest single =>
      rw [cutAt_self] at cut
      cases cut
      exact ⟨false, after, by simp [upToClose], rfl⟩
  | case6 c rest _ _ opening closing ih =>
      rw [cutAt_cons closing] at cut
      rcases Prod.mk.inj cut with ⟨rfl, found⟩
      rcases ih (Prod.ext rfl found) with ⟨pair, more, close, split⟩
      exact ⟨pair, more, by simp [upToClose_consText, close], split⟩

theorem lexemes_opening {rest : List Char} (single : Avoids '{' rest) :
    lexemes ('{' :: rest) = .opening :: lexemes rest := by
  rw [lexemes]
  exact avoids_iff.mp single

theorem lexemes_closing {rest : List Char} (single : Avoids '}' rest) :
    lexemes ('}' :: rest) = .closing :: lexemes rest := by
  rw [lexemes]
  exact avoids_iff.mp single

theorem lexemes_char {c : Char} (rest : List Char) (opening : c ≠ '{') (closing : c ≠ '}') :
    lexemes (c :: rest) = Lexeme.consText c (lexemes rest) := by
  rw [lexemes]
  · intro more same
    exact absurd same opening
  · intro more same
    exact absurd same closing
  · exact opening
  · exact closing

/-- Parsing the lexemes of a text gives what scanning the unread characters gives, behind the run of
literal text so far, wherever the parser is when the text is all that remains. -/
def Agrees (size : Nat) (text : List Char) : Prop :=
  ∀ progress : Progress, size = progress.offset + byteLength (progress.unread text) →
    parseLexemes size progress (lexemes text) =
      progress.before (scanned progress.offset (progress.unread text))

namespace Agrees

variable {size : Nat} {rest : List Char}

theorem take (later : Agrees size rest) (progress : Progress) (text : List Char) (n : Nat)
    (total : size = progress.offset + n + byteLength (progress.unread rest)) :
    parseLexemes size (progress.take text n) (lexemes rest) =
      progress.before ((scanned (progress.offset + n) (progress.unread rest)).attach
        (.literal ⟨String.ofList text, progress.offset, progress.offset + n⟩)) := by
  have same := later (progress.take text n) total
  rw [same, Progress.before_take]
  rfl

theorem take_settled (later : Agrees size rest) {progress : Progress} {whole : List Char}
    (total : size = progress.offset + byteLength (progress.unread whole)) (text : List Char)
    {n : Nat} (taken : byteLength whole = n + byteLength rest) :
    parseLexemes size (progress.settle.take text n) (lexemes rest) =
      progress.settle.before ((scanned (progress.settle.offset + n) rest).attach
        (.literal ⟨String.ofList text, progress.settle.offset, progress.settle.offset + n⟩)) := by
  have unread := Progress.unread_of_not_half progress.settle_half rest
  have ahead : size = progress.settle.offset + n + byteLength (progress.settle.unread rest) := by
    calc
      size = progress.offset + byteLength (progress.unread whole) := total
      _ = progress.settle.offset + byteLength whole := (progress.offset_settle whole).symm
      _ = progress.settle.offset + n + byteLength (progress.settle.unread rest) := by
        rw [taken, unread, Nat.add_assoc]
  have same := later.take progress.settle text n ahead
  rw [unread] at same
  exact same

theorem nil (size : Nat) : Agrees size [] := by
  intro progress total
  have single : Avoids '}' [] := avoids_nil '}'
  rw [Progress.before_unread progress [] single, scanned_nil, lexemes, parseLexemes,
    Progress.before_done, Parsed.report, List.append_nil]

theorem openPair (later : Agrees size rest) : Agrees size ('{' :: '{' :: rest) := by
  intro progress total
  have single : Avoids '}' ('{' :: '{' :: rest) := by simp
  have taken : byteLength ('{' :: '{' :: rest) = 2 + byteLength rest := by
    rw [byteLength_opening, byteLength_opening, ← Nat.add_assoc]
  rw [Progress.before_unread progress _ single, scanned_openPair, lexemes, parseLexemes,
    later.take_settled total ['{'] taken]

/-- An unread brace stays unread behind a pair: it pairs with the first brace, and the second one is
unread in its place. -/
theorem closePair (later : Agrees size rest) : Agrees size ('}' :: '}' :: rest) := by
  intro progress total
  have unread : progress.unread ('}' :: '}' :: rest) = '}' :: '}' :: progress.unread rest := by
    cases half : progress.half with
    | false => rw [Progress.unread_of_not_half half, Progress.unread_of_not_half half]
    | true => rw [Progress.unread_of_half half, Progress.unread_of_half half]
  rw [unread] at total ⊢
  have ahead : size = progress.offset + 2 + byteLength (progress.unread rest) := by
    rw [total, byteLength_closing, byteLength_closing]
    omega
  rw [scanned_closePair, lexemes, parseLexemes, later.take progress ['}'] 2 ahead]

theorem closing (single : Avoids '}' rest) (later : Agrees size rest) :
    Agrees size ('}' :: rest) := by
  intro progress total
  rw [lexemes_closing single, parseLexemes]
  cases half : progress.half with
  | true =>
      rw [Progress.unread_of_half half] at total ⊢
      have ahead : size = progress.offset + 2 + byteLength rest := by
        rw [total, byteLength_closing, byteLength_closing]
        omega
      rw [if_pos rfl, scanned_closePair]
      exact later.take { progress with half := false } ['}'] 2 ahead
  | false =>
      have unread (text : List Char) := Progress.unread_of_not_half half text
      rw [unread] at total ⊢
      have ahead : size = progress.offset + 1 + byteLength (progress.unread rest) := by
        rw [total, unread, byteLength_closing, Nat.add_assoc]
      rw [if_neg Bool.false_ne_true, scanned_stray _ _ single,
        later.take progress ['}'] 1 ahead, unread]
      rfl

theorem unclosed {before : List Char} (single : Avoids '{' rest)
    (cut : cutAt '}' rest = (before, none)) (later : Agrees size rest) :
    Agrees size ('{' :: rest) := by
  intro progress total
  have other : Avoids '}' ('{' :: rest) := by simp
  have stop : size = progress.settle.offset + 1 + byteLength rest := by
    calc
      size = progress.offset + byteLength (progress.unread ('{' :: rest)) := total
      _ = progress.settle.offset + byteLength ('{' :: rest) := (progress.offset_settle _).symm
      _ = progress.settle.offset + 1 + byteLength rest := by
        rw [byteLength_opening, Nat.add_assoc]
  rw [Progress.before_unread progress _ other, lexemes_opening single,
    parseLexemes_unclosed (upToClose_lexemes_eq_none cut),
    later.take_settled total ['{'] (byteLength_opening rest),
    scanned_unclosed _ _ _ single cut, Progress.before_report, Parsed.report_report, ← stop]

theorem fragment {content after : List Char} (single : Avoids '{' rest)
    (cut : cutAt '}' rest = (content, some after))
    (later : ∀ more : List Char, more.length < rest.length → Agrees size more) :
    Agrees size ('{' :: rest) := by
  intro progress total
  have other : Avoids '}' ('{' :: rest) := by simp
  rcases upToClose_lexemes cut with ⟨pair, more, closed, unread⟩
  have shorter : more.length < rest.length := by
    have := length_lt_of_cutAt cut
    cases pair with
    | false => simpa [unread] using this
    | true =>
        rw [unread, if_pos rfl, List.length_cons] at this
        omega
  have stop : size =
      progress.settle.offset + byteLength ('{' :: content ++ ['}']) + byteLength after := by
    calc
      size = progress.offset + byteLength (progress.unread ('{' :: rest)) := total
      _ = progress.settle.offset + byteLength ('{' :: rest) := (progress.offset_settle _).symm
      _ = progress.settle.offset + byteLength ('{' :: content ++ ['}']) + byteLength after := by
        rw [(cutAt_eq_some cut).1, byteLength_braced, byteLength_opening, byteLength_append,
          byteLength_closing]
        omega
  rw [Progress.before_unread progress _ other, lexemes_opening single,
    scanned_fragment _ _ _ _ single cut]
  apply parseLexemes_fragment closed
  intro next half place
  -- If the fragment was closed by half a pair, the other half is what the scanner sees next.
  have ahead : after = next.unread more := by rw [unread, Progress.unread, half]
  have same := later more shorter next (by rw [← ahead, place, stop])
  rw [same, ← ahead, place, byteLength_braced, Nat.add_assoc]

theorem char {c : Char} (opening : c ≠ '{') (closing : c ≠ '}') (later : Agrees size rest) :
    Agrees size (c :: rest) := by
  intro progress total
  have other : Avoids '}' (c :: rest) := by simpa using closing
  rw [Progress.before_unread progress _ other, scanned_char _ _ _ opening closing,
    lexemes_char rest opening closing, parseLexemes_consText, later.take_settled total [c] rfl]

end Agrees

theorem agrees (size : Nat) (text : List Char) : Agrees size text := by
  -- A fragment takes many characters at once, so the induction is on the length.
  induction length : text.length using Nat.strongRecOn generalizing text with
  | ind n ih =>
  subst length
  have later (rest : List Char) (shorter : rest.length < text.length) : Agrees size rest :=
    ih _ shorter rest rfl
  fun_cases lexemes text with
  | case1 => exact .nil size
  | case2 rest => exact .openPair (later rest (by simp only [List.length_cons]; omega))
  | case3 rest => exact .closePair (later rest (by simp only [List.length_cons]; omega))
  | case4 rest single =>
      have single : Avoids '{' rest := avoids_iff.mpr single
      cases cut : cutAt '}' rest with
      | mk content after =>
      cases after with
      | none => exact .unclosed single cut (later rest (Nat.lt_succ_self _))
      | some after =>
          apply Agrees.fragment single cut
          intro more shorter
          exact later more (Nat.lt_succ_of_lt shorter)
  | case5 rest single =>
      exact .closing (avoids_iff.mpr single) (later rest (Nat.lt_succ_self _))
  | case6 c rest _ _ opening closing =>
      exact .char opening closing (later rest (Nat.lt_succ_self _))

theorem parse_eq_scanned (text : List Char) : parse text = scanned 0 text := by
  have unread : Progress.unread ⟨0, false, none⟩ text = text := rfl
  have total : byteLength text = 0 + byteLength text := (Nat.zero_add _).symm
  have same := agrees (byteLength text) text ⟨0, false, none⟩ total
  rw [parse, same, unread, Progress.before_none]

namespace Template

theorem pieces_parse (text : String) : (parse text).pieces = (scanned 0 text.toList).pieces := by
  rw [parse, parse_eq_scanned]

theorem check_eq_scanned (text : String) : check text = (scanned 0 text.toList).diagnostics := by
  rw [check, parse_eq_scanned]

/-- A template is read as if character by character: the lexemes, and the halves of doubled braces,
do not show in its pieces nor in its diagnostics. -/
theorem parse_and_check_eq_scan (text : String) :
    parse text = ⟨text, joined (scan 0 text.toList).fragments⟩ ∧
      check text = (scan 0 text.toList).diagnostics := by
  constructor
  · have pieces := pieces_parse text
    rw [parse] at pieces ⊢
    exact congrArg (Template.mk text) pieces
  · exact check_eq_scanned text

end Template

end Stencil
