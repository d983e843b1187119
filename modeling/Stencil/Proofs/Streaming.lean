import Stencil.Proofs.Output
import Stencil.Rendering.Stream

namespace Stencil

namespace Emission

variable {ε δ : Type} (refused : ε)

theorem run_append_eq_andThen (a b : Emission ε) (sink : Sink) :
    run refused (a ++ b) sink = Sink.andThen (run refused b) (run refused a sink) := by
  rw [run_append]
  cases run refused a sink with
  | mk after result => cases result <;> rfl

/-- A failure may be renamed while the output is made or after it. -/
theorem run_mapError (f : ε → δ) (emission : Emission ε) (sink : Sink) :
    run (f refused) (emission.map (.mapError f)) sink =
      ((run refused emission sink).1, (run refused emission sink).2.mapError f) := by
  induction emission generalizing sink with
  | nil => rfl
  | cons step rest ih =>
      cases step with
      | fail error => rfl
      | write text | pad count =>
          simp only [List.map_cons, Step.mapError, run]
          split
          · exact ih _
          · rfl

theorem trace_replicate_space (count : Nat) :
    trace (List.replicate count (.write " ") : Emission ε) = (spaces count, .ok ()) := by
  induction count with
  | zero => rfl
  | succ count ih =>
      have first : " " ++ spaces count = spaces (count + 1) := by
        rw [← String.toList_inj]
        simp [spaces, List.replicate_succ]
      rw [List.replicate_succ, trace_write, ih, first]

end Emission

namespace Sink

theorem writeText_eq_run (text : String) (sink : Sink) :
    sink.writeText text = Emission.run .refused [.write text] sink := rfl

theorem writeSpaces_eq_run (count : Nat) (sink : Sink) :
    sink.writeSpaces count = Emission.run .refused [.pad count] sink := by
  have single (sink : Sink) : sink.writeSpaces count =
      Emission.run .refused (List.replicate count (.write " ")) sink := by
    induction count generalizing sink with
    | zero => rfl
    | succ count ih =>
        have first := Emission.run_append_eq_andThen RenderError.refused [.write " "]
          (List.replicate count (.write " ")) sink
        rw [writeSpaces, writeText_eq_run, funext ih, List.replicate_succ]
        exact first.symm
  have same : Emission.trace (List.replicate count (.write " ") : Emission RenderError) =
      Emission.trace [.pad count] := by
    rw [Emission.trace_replicate_space, Emission.trace, Emission.trace, String.append_empty]
  rw [single, Emission.run_eq_of_trace _ same]

theorem writeAligned_eq_run (content : String) (alignment : Alignment) (sink : Sink) :
    sink.writeAligned content alignment =
      (Stencil.writeAligned content alignment).run .refused sink := by
  rcases alignment with ⟨side, width⟩
  cases side with
  | left =>
      simp only [writeAligned, Stencil.writeAligned, writeText_eq_run, funext (writeSpaces_eq_run _)]
      rw [← Emission.run_append_eq_andThen, List.singleton_append]
  | right =>
      simp only [writeAligned, Stencil.writeAligned, funext (writeText_eq_run _), writeSpaces_eq_run]
      rw [← Emission.run_append_eq_andThen, List.singleton_append]

variable {ε : Type} (refused : ε) (text : String) (outcome : Except ε Unit)

theorem receive_unlimited :
    unlimited.receive refused text outcome = (⟨none, text⟩, outcome) := by
  rw [receive, unlimited, write, String.empty_append]

theorem receive_limited (room : Nat) :
    (limited room).receive refused text outcome =
      (⟨some (room - text.length), String.ofList (text.toList.take room)⟩,
        if text.length ≤ room then outcome else .error refused) := by
  rw [receive, limited, write, String.empty_append]
  by_cases fits : text.length ≤ room <;> simp [fits]

end Sink

theorem Emission.collect_eq_trace (emission : Emission FormatError) :
    emission.collect = emission.trace.2.map fun _ => emission.trace.1 := by
  rw [collect, run_eq_receive, Sink.receive_unlimited]

section

variable (properties : Properties) (symbols : Symbols)

theorem Hole.stream_eq_run (hole : Hole) (sink : Sink) :
    hole.stream properties symbols sink = (hole.emission properties symbols).run .refused sink := by
  rw [stream, emission]
  cases properties hole.name with
  | none => rfl
  | some value =>
      cases hole.alignment with
      | none =>
          have renamed := Emission.run_mapError FormatError.refused (RenderError.ofFormat hole.name)
            (value hole.format symbols) sink
          exact renamed.symm
      | some alignment =>
          -- The buffer never refuses, so the value's failures here are its own.
          simp only [Emission.collect]
          cases (value hole.format symbols).run .refused .unlimited with
          | mk buffer result =>
              cases result with
              | error error => rfl
              | ok => exact Sink.writeAligned_eq_run buffer.written alignment sink

theorem Piece.stream_eq_render (piece : Piece) (sink : Sink) :
    piece.stream properties symbols sink = piece.render properties symbols sink := by
  cases piece with
  | literal l => rfl
  | hole h => exact h.stream_eq_run properties symbols sink

theorem streamed_eq_run (pieces : List Piece) (sink : Sink) :
    streamed properties symbols pieces sink =
      Emission.run .refused (pieces.flatMap (Piece.emission properties symbols)) sink := by
  induction pieces generalizing sink with
  | nil => rfl
  | cons piece rest ih =>
      rw [streamed, Piece.stream_eq_render, Piece.render, List.flatMap_cons,
        Emission.run_append_eq_andThen, funext ih]

end

namespace Template

/-- What a sink of limited room gets is the beginning of the output; and where the output does not
fit, the sink's refusal is the failure, whatever the output would have ended with. This holds of
rendering straight into the sink, where a refusal passes through the values that meet it. -/
theorem render_limited (properties : Properties) (symbols : Symbols) (template : Template)
    (room : Nat) :
    (∀ sink, template.render properties symbols sink =
        streamed properties symbols template.pieces sink) ∧
      let whole := template.render properties symbols .unlimited
      let cut := template.render properties symbols (.limited room)
      cut.1.written = String.ofList (whole.1.written.toList.take room) ∧
        cut.2 = if whole.1.written.length ≤ room then whole.2 else .error .refused := by
  constructor
  · intro sink
    exact (streamed_eq_run properties symbols template.pieces sink).symm
  · simp only [render, Emission.run_eq_receive, Sink.receive_unlimited, Sink.receive_limited,
      and_self]

end Template

end Stencil
