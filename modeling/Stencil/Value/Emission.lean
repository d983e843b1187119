/-!
Output is described by steps before it is made: what to write, in order, and where to fail. A sink
carries the steps out. It may accept only so many characters; a step that it cannot take whole is
refused and ends the output there.
-/

namespace Stencil

inductive Step (ε : Type)
  | write (text : String)
  /-- Writes `count` spaces. -/
  | pad (count : Nat)
  | fail (error : ε)

abbrev Emission (ε : Type) := List (Step ε)

def Step.mapError {ε δ : Type} (f : ε → δ) : Step ε → Step δ
  | write text => write text
  | pad count => pad count
  | fail error => fail (f error)

def spaces (count : Nat) : String := String.ofList (List.replicate count ' ')

/-- `room` is the number of characters still accepted, if there is a limit. -/
structure Sink where
  room : Option Nat
  written : String
  deriving DecidableEq

namespace Sink

def unlimited : Sink := ⟨none, ""⟩

def limited (room : Nat) : Sink := ⟨some room, ""⟩

def write (sink : Sink) (text : String) : Sink × Bool :=
  match sink.room with
  | none => (⟨none, sink.written ++ text⟩, true)
  | some room =>
      (⟨some (room - text.length), sink.written ++ String.ofList (text.toList.take room)⟩,
        text.length ≤ room)

/-- As `write` with `count` spaces, made only as far as they fit. -/
def pad (sink : Sink) (count : Nat) : Sink × Bool :=
  match sink.room with
  | none => (⟨none, sink.written ++ spaces count⟩, true)
  | some room =>
      (⟨some (room - count), sink.written ++ spaces (min count room)⟩, count ≤ room)

theorem pad_eq_write (sink : Sink) (count : Nat) : sink.pad count = sink.write (spaces count) := by
  unfold pad write
  cases sink.room <;> simp [spaces, Nat.min_comm]

end Sink

namespace Emission

/-- Carries out the steps up to the first failure. A refused step fails with `refused`. -/
def run {ε : Type} (refused : ε) : Emission ε → Sink → Sink × Except ε Unit
  | [], sink => (sink, .ok ())
  | .fail error :: _, sink => (sink, .error error)
  | .write text :: rest, sink =>
      match sink.write text with
      | (sink, true) => run refused rest sink
      | (sink, false) => (sink, .error refused)
  | .pad count :: rest, sink =>
      match sink.pad count with
      | (sink, true) => run refused rest sink
      | (sink, false) => (sink, .error refused)

theorem run_append {ε : Type} (refused : ε) (a b : Emission ε) (sink : Sink) :
    run refused (a ++ b) sink =
      match run refused a sink with
      | (sink, .ok ()) => run refused b sink
      | (sink, .error error) => (sink, .error error) := by
  induction a generalizing sink with
  | nil => rfl
  | cons step rest ih =>
      cases step with
      | fail error => rfl
      | write text | pad count =>
          simp only [List.cons_append, run]
          split <;> simp_all

end Emission

end Stencil
