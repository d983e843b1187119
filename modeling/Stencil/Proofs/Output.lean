import Stencil.Proofs.Scanning
import Stencil.Rendering

namespace Stencil

/-- The text written before the first failure, and how the output ends. -/
def Emission.trace {ε : Type} : Emission ε → String × Except ε Unit
  | [] => ("", .ok ())
  | .write text :: rest => (text ++ (trace rest).1, (trace rest).2)
  | .pad count :: rest => (spaces count ++ (trace rest).1, (trace rest).2)
  | .fail error :: _ => ("", .error error)

/-- The sink after a whole text, which ends as `outcome` tells unless there is no room for it. -/
def Sink.receive {ε : Type} (refused : ε) (sink : Sink) (text : String)
    (outcome : Except ε Unit) : Sink × Except ε Unit :=
  match sink.write text with
  | (sink, true) => (sink, outcome)
  | (sink, false) => (sink, .error refused)

namespace Sink

theorem write_empty (sink : Sink) : sink.write "" = (sink, true) := by
  rcases sink with ⟨room, written⟩
  cases room <;> simp [write]

theorem write_append (sink : Sink) (a b : String) :
    sink.write (a ++ b) =
      (((sink.write a).1.write b).1, (sink.write a).2 && ((sink.write a).1.write b).2) := by
  rcases sink with ⟨room, written⟩
  cases room with
  | none => simp [write, String.append_assoc]
  | some room =>
      have left : room - (a.length + b.length) = room - a.length - b.length := by omega
      have fits : a.length + b.length ≤ room ↔ a.length ≤ room ∧ b.length ≤ room - a.length := by
        omega
      have taken : (a.toList ++ b.toList).take room =
          a.toList.take room ++ b.toList.take (room - a.length) := by
        rw [List.take_append, String.length_toList]
      simp [write, left, fits, taken, String.ofList_append, String.append_assoc]

theorem written_of_write {sink after : Sink} {text : String}
    (fits : sink.write text = (after, true)) : after.written = sink.written ++ text := by
  rcases sink with ⟨room, written⟩
  cases room with
  | none =>
      rcases Prod.mk.inj fits with ⟨rfl, -⟩
      rfl
  | some room =>
      rcases Prod.mk.inj fits with ⟨rfl, short⟩
      have whole : text.toList.take room = text.toList := by
        apply List.take_of_length_le
        rw [String.length_toList]
        exact of_decide_eq_true short
      rw [whole, String.ofList_toList]

theorem write_of_refused {sink full : Sink} {a : String} (refused : sink.write a = (full, false))
    (b : String) : (full.write b).1 = full := by
  rcases sink with ⟨room, written⟩
  cases room with
  | none => simp [write] at refused
  | some room =>
      rcases Prod.mk.inj refused with ⟨rfl, beyond⟩
      have less : ¬ a.length ≤ room := of_decide_eq_false beyond
      have none_left : room - a.length = 0 := by omega
      simp [write, none_left]

variable {ε : Type} (refused : ε)

theorem receive_empty (sink : Sink) (outcome : Except ε Unit) :
    sink.receive refused "" outcome = (sink, outcome) := by
  rw [receive, write_empty]

theorem receive_append (sink : Sink) (a b : String) (outcome : Except ε Unit) :
    sink.receive refused (a ++ b) outcome =
      match sink.write a with
      | (sink, true) => sink.receive refused b outcome
      | (sink, false) => (sink, .error refused) := by
  rw [receive, write_append]
  cases first : sink.write a with
  | mk next fits =>
  cases fits with
  | true => rfl
  | false =>
      -- The first text has filled the sink, so the second one leaves it as it is.
      simp only [write_of_refused first, Bool.false_and]

end Sink

namespace Emission

variable {ε : Type}

theorem trace_write (text : String) (rest : Emission ε) :
    trace (.write text :: rest) = (text ++ (trace rest).1, (trace rest).2) := rfl

theorem trace_append (a b : Emission ε) :
    trace (a ++ b) =
      match trace a with
      | (text, .ok ()) => (text ++ (trace b).1, (trace b).2)
      | (text, .error error) => (text, .error error) := by
  induction a with
  | nil => simp [trace]
  | cons step rest ih =>
      cases step with
      | fail error => rfl
      | write text | pad count =>
          simp only [List.cons_append, trace, ih]
          split <;> simp_all [String.append_assoc]

theorem trace_append_congr (a : Emission ε) {b c : Emission ε} (same : trace b = trace c) :
    trace (a ++ b) = trace (a ++ c) := by
  rw [trace_append, trace_append, same]

theorem trace_append_eq_ok {a b : Emission ε} {text : String}
    (whole : trace (a ++ b) = (text, .ok ())) :
    ∃ first second, trace a = (first, .ok ()) ∧ trace b = (second, .ok ()) ∧
      text = first ++ second := by
  rw [trace_append] at whole
  split at whole
  · next first ended =>
      rcases Prod.mk.inj whole with ⟨rfl, rest⟩
      exact ⟨first, (trace b).1, ended, Prod.ext rfl rest, rfl⟩
  · simp at whole

/-- Each sink receives the trace of an emission, in as far as it has room. -/
theorem run_eq_receive (refused : ε) (emission : Emission ε) (sink : Sink) :
    emission.run refused sink = sink.receive refused emission.trace.1 emission.trace.2 := by
  induction emission generalizing sink with
  | nil => rw [run, trace, Sink.receive_empty]
  | cons step rest ih =>
      cases step with
      | fail error => rw [run, trace, Sink.receive_empty]
      | write text =>
          rw [run, trace, Sink.receive_append]
          split <;> simp_all
      | pad count =>
          rw [run, trace, Sink.receive_append, Sink.pad_eq_write]
          split <;> simp_all

/-- It does not show in a sink how the text was cut into steps. -/
theorem run_eq_of_trace (refused : ε) {a b : Emission ε} (same : trace a = trace b)
    (sink : Sink) : a.run refused sink = b.run refused sink := by
  rw [run_eq_receive, run_eq_receive, same]

end Emission

namespace Sink

variable {ε : Type} {refused : ε}

theorem receive_eq_ok {sink after : Sink} {text : String} {outcome : Except ε Unit}
    (received : sink.receive refused text outcome = (after, .ok ())) :
    outcome = .ok () ∧ after.written = sink.written ++ text := by
  rw [receive] at received
  split at received
  · next next fits =>
      rcases Prod.mk.inj received with ⟨rfl, ended⟩
      exact ⟨ended, written_of_write fits⟩
  · simp at received

end Sink

namespace Template

variable (properties : Properties) (symbols : Symbols)

theorem renderText_eq_ok_iff {template : Template} {text : String} :
    template.renderText properties symbols = .ok text ↔
      (template.emission properties symbols).trace = (text, .ok ()) := by
  rw [renderText, render, Emission.run_eq_receive]
  cases (template.emission properties symbols).trace with
  | mk written outcome =>
  cases outcome <;> simp [Sink.receive, Sink.write, Sink.unlimited, Except.map]

end Template

theorem trace_attach (properties : Properties) (symbols : Symbols) (piece : Piece)
    (pieces : List Piece) :
    Emission.trace ((piece.attach pieces).flatMap (Piece.emission properties symbols)) =
      Emission.trace (piece.emission properties symbols ++
        pieces.flatMap (Piece.emission properties symbols)) := by
  cases piece with
  | hole h => rw [Piece.attach_hole, List.flatMap_cons]
  | literal a =>
      cases pieces with
      | nil => rfl
      | cons next more =>
          cases next with
          | hole h => rfl
          | literal b =>
              simp only [Piece.attach, List.flatMap_cons, Piece.emission, List.cons_append,
                List.nil_append, Emission.trace_write, String.append_assoc]

end Stencil
