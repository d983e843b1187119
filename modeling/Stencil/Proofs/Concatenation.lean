import Stencil.Proofs.Output
import Stencil.Proofs.Parsing
import Stencil.Proofs.Segments

namespace Stencil

def Span.shift (distance : Nat) (span : Span) : Span :=
  ⟨span.start + distance, span.stop + distance⟩

def Diagnostic.shift (distance : Nat) (diagnostic : Diagnostic) : Diagnostic :=
  ⟨diagnostic.fault, diagnostic.span.shift distance⟩

def Hole.shift (distance : Nat) (hole : Hole) : Hole :=
  { hole with start := hole.start + distance }

def Piece.shift (distance : Nat) : Piece → Piece
  | literal l => literal ⟨l.text, l.span.shift distance⟩
  | hole h => hole (h.shift distance)

def Parsed.shift (distance : Nat) (parsed : Parsed) : Parsed :=
  ⟨parsed.pieces.map (.shift distance), parsed.diagnostics.map (.shift distance)⟩

/-- Two sequences of pieces in one. The last piece of the first and the first piece of the second
become one if both are literals. -/
def spliced : List Piece → List Piece → List Piece
  | [], next => next
  | [.literal a], .literal b :: rest =>
      .literal ⟨a.text ++ b.text, a.span.start, b.span.stop⟩ :: rest
  | piece :: rest, next => piece :: spliced rest next

section

variable (distance : Nat)

theorem Piece.map_shift_attach (piece : Piece) (pieces : List Piece) :
    (piece.attach pieces).map (.shift distance) =
      (piece.shift distance).attach (pieces.map (.shift distance)) := by
  cases piece with
  | hole h => rw [attach_hole, List.map_cons, shift, attach_hole]
  | literal a =>
      cases pieces with
      | nil => rfl
      | cons next rest => cases next <;> rfl

namespace Parsed

theorem shift_attach (piece : Piece) (parsed : Parsed) :
    (parsed.attach piece).shift distance =
      (parsed.shift distance).attach (piece.shift distance) := by
  rw [attach, shift, Piece.map_shift_attach]
  rfl

theorem shift_report (faults : List Diagnostic) (parsed : Parsed) :
    (parsed.report faults).shift distance =
      (parsed.shift distance).report (faults.map (.shift distance)) := by
  rw [report, shift, List.map_append]
  rfl

end Parsed

theorem readHole_shift (content : List Char) (start : Nat) :
    readHole content (start + distance) = (readHole content start).map (.shift distance) := by
  simp only [readHole]
  split
  · rfl
  split
  · rfl
  split
  · rfl
  split <;> rfl

namespace Takes

variable {distance}

theorem shift {place : Nat} {part rest : List Char} {piece : Piece} {faults : List Diagnostic}
    (takes : Takes place part rest piece faults) :
    Takes (place + distance) part rest (piece.shift distance) (faults.map (.shift distance)) := by
  have ahead (size : Nat) : place + size + distance = place + distance + size :=
    Nat.add_right_comm place size distance
  cases takes with
  | openPair =>
      rw [Piece.shift, Span.shift, ahead]
      exact .openPair rest
  | closePair =>
      rw [Piece.shift, Span.shift, ahead]
      exact .closePair rest
  | stray single =>
      simp only [Piece.shift, Diagnostic.shift, Span.shift, List.map_cons, List.map_nil, ahead]
      exact .stray single
  | unclosed single absent =>
      have stop : place + 1 + byteLength rest + distance =
          place + distance + 1 + byteLength rest := by omega
      simp only [Piece.shift, Diagnostic.shift, Span.shift, List.map_cons, List.map_nil, ahead,
        stop]
      exact .unclosed single absent
  | fault _ single closed read =>
      simp only [Piece.shift, Diagnostic.shift, Span.shift, List.map_cons, List.map_nil, ahead]
      apply Takes.fault rest single closed
      rw [readHole_shift, read]
      rfl
  | hole _ single closed read =>
      apply Takes.hole rest single closed
      rw [readHole_shift, read]
      rfl
  | char _ opening closing =>
      rw [Piece.shift, Span.shift, ahead]
      exact .char rest opening closing

/-- A step without a fault does not look at what follows it. -/
theorem of_clean {place : Nat} {part rest : List Char} {piece : Piece}
    (takes : Takes place part rest piece []) (other : List Char) :
    Takes place part other piece [] := by
  cases takes with
  | openPair => exact .openPair other
  | closePair => exact .closePair other
  | hole _ single closed read => exact .hole other single closed read
  | char _ opening closing => exact .char other opening closing

end Takes

theorem scanned_shift (place : Nat) (text : List Char) :
    scanned (place + distance) text = (scanned place text).shift distance := by
  induction place, text using scanned_induction with
  | nil place => exact scanned_nil (place + distance)
  | @step place part rest piece faults parsed takes later =>
      have next : place + distance + byteLength part = place + byteLength part + distance :=
        Nat.add_right_comm place distance (byteLength part)
      rw [takes.shift.scanned_eq, next, later, Parsed.shift_report, Parsed.shift_attach]

end

@[simp] theorem spliced_nil (next : List Piece) : spliced [] next = next := rfl

theorem spliced_singleton (piece : Piece) (next : List Piece) :
    spliced [piece] next = piece.attach next := by
  cases piece with
  | hole h =>
      rw [Piece.attach_hole]
      rfl
  | literal a =>
      cases next with
      | nil => rfl
      | cons other rest => cases other <;> rfl

theorem spliced_cons_cons (piece other : Piece) (rest next : List Piece) :
    spliced (piece :: other :: rest) next = piece :: spliced (other :: rest) next := by
  cases piece <;> rfl

theorem spliced_attach (piece : Piece) (pieces next : List Piece) :
    spliced (piece.attach pieces) next = piece.attach (spliced pieces next) := by
  cases pieces with
  | nil => rw [Piece.attach_nil, spliced_singleton, spliced_nil]
  | cons first rest =>
      cases piece with
      | hole h => rw [Piece.attach_hole, Piece.attach_hole, spliced_cons_cons]
      | literal a =>
          cases first with
          | hole h =>
              have apart (pieces : List Piece) :
                  (Piece.literal a).attach (.hole h :: pieces) = .literal a :: .hole h :: pieces :=
                rfl
              rw [apart, spliced_cons_cons]
              cases rest with
              | nil => rw [spliced_singleton, Piece.attach_hole, apart]
              | cons => rw [spliced_cons_cons, apart]
          | literal b =>
              cases rest with
              | nil =>
                  rw [Piece.attach, spliced_singleton, spliced_singleton, Piece.attach_attach]
              | cons => rw [Piece.attach, spliced_cons_cons, spliced_cons_cons, Piece.attach]

/-- After a text without a fault, scanning goes on as if the next one stood alone at its place. -/
theorem scanned_append (place : Nat) (text rest : List Char)
    (clean : (scanned place text).diagnostics = []) :
    scanned place (text ++ rest) =
      ⟨spliced (scanned place text).pieces (scanned (place + byteLength text) rest).pieces,
        (scanned (place + byteLength text) rest).diagnostics⟩ := by
  induction place, text using scanned_induction with
  | nil place => rfl
  | @step place part more piece faults parsed takes ih =>
      rcases List.append_eq_nil_iff.mp clean with ⟨rfl, later⟩
      rw [List.append_assoc, (takes.of_clean (more ++ rest)).scanned_eq, ih later,
        byteLength_append, ← Nat.add_assoc]
      simp only [Parsed.attach, Parsed.report_nil, spliced_attach]

section

variable (properties : Properties) (symbols : Symbols)

theorem trace_spliced (pieces next : List Piece) :
    Emission.trace ((spliced pieces next).flatMap (Piece.emission properties symbols)) =
      Emission.trace (pieces.flatMap (Piece.emission properties symbols) ++
        next.flatMap (Piece.emission properties symbols)) := by
  induction pieces with
  | nil => rfl
  | cons piece rest ih =>
      rw [List.flatMap_cons, List.append_assoc]
      cases rest with
      | nil => rw [spliced_singleton, trace_attach, List.flatMap_nil, List.nil_append]
      | cons other more =>
          rw [spliced_cons_cons, List.flatMap_cons]
          exact Emission.trace_append_congr _ ih

theorem Piece.emission_shift (distance : Nat) (piece : Piece) :
    (piece.shift distance).emission properties symbols = piece.emission properties symbols := by
  cases piece <;> rfl

end

namespace Template

/-- Behind a template without a fault, a text is parsed as it is alone, only at a later place; and
it is rendered after that template into what room is left. -/
theorem parse_append {a : String} (clean : check a = []) (b : String) :
    parse (a ++ b) =
        ⟨a ++ b, spliced (parse a).pieces ((parse b).pieces.map (.shift a.utf8ByteSize))⟩ ∧
      check (a ++ b) = (check b).map (.shift a.utf8ByteSize) ∧
      ∀ (properties : Properties) (symbols : Symbols) (sink : Sink),
        (parse (a ++ b)).render properties symbols sink =
          match (parse a).render properties symbols sink with
          | (sink, .ok ()) => (parse b).render properties symbols sink
          | (sink, .error error) => (sink, .error error) := by
  rw [check_eq_scanned] at clean
  have moved : scanned (0 + byteLength a.toList) b.toList =
      (scanned 0 b.toList).shift a.utf8ByteSize := by
    rw [byteLength_toList]
    exact scanned_shift a.utf8ByteSize 0 b.toList
  have whole : scanned 0 (a ++ b).toList =
      ⟨spliced (scanned 0 a.toList).pieces
          ((scanned 0 b.toList).pieces.map (.shift a.utf8ByteSize)),
        (scanned 0 b.toList).diagnostics.map (.shift a.utf8ByteSize)⟩ := by
    rw [String.toList_append, scanned_append 0 _ _ clean, moved]
    rfl
  have pieces : (parse (a ++ b)).pieces =
      spliced (parse a).pieces ((parse b).pieces.map (.shift a.utf8ByteSize)) := by
    rw [pieces_parse, pieces_parse, pieces_parse, whole]
  refine ⟨?_, ?_, ?_⟩
  · exact congrArg (Template.mk (a ++ b)) pieces
  · rw [check_eq_scanned, check_eq_scanned, whole]
  · intro properties symbols sink
    have same : Emission.trace ((parse (a ++ b)).emission properties symbols) =
        Emission.trace ((parse a).emission properties symbols ++
          (parse b).emission properties symbols) := by
      rw [emission, pieces, trace_spliced, List.flatMap_map]
      simp only [Piece.emission_shift]
      rfl
    simp only [render, Emission.run_eq_of_trace _ same, Emission.run_append]
    cases ((parse a).emission properties symbols).run .refused sink with
    | mk after result => cases result <;> rfl

theorem parse_append_braces :
    let a := String.ofList ['{', 'A', '}', '}', '}']
    let b := String.ofList ['}', '}', '}', '{', 'B']
    let properties : Properties := fun _ => none
    check a = [] ∧
      (parse (a ++ b)).pieces.map Piece.span = [⟨0, 3⟩, ⟨3, 10⟩] ∧
      check (a ++ b) = [⟨.strayBrace, 7, 8⟩, ⟨.unclosed, 8, 10⟩] ∧
      ((parse (a ++ b)).render properties .invariant (.limited 6)).1 =
        ⟨some 0, "\x7bA\x7d\x7d\x7d\x7d"⟩ := by
  intro a b properties
  have clean : check a = [] := by decide +kernel
  rcases parse_append clean b with ⟨parsed, faults, rendered⟩
  refine ⟨clean, ?_, ?_, ?_⟩
  · rw [parsed]
    decide +kernel
  · rw [faults]
    decide +kernel
  · rw [rendered]
    decide +kernel

end Template

end Stencil
