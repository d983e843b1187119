import Stencil.Proofs.Streaming

namespace Stencil

/-- The content filled up with spaces to the width, counted in characters, on the side that the
alignment leaves free. -/
def Alignment.filled (alignment : Alignment) (content : String) : String :=
  let padding := spaces (alignment.width.toNat - content.length)
  match alignment.side with
  | .left => content ++ padding
  | .right => padding ++ content

theorem Alignment.length_filled (alignment : Alignment) (content : String) :
    (alignment.filled content).length = max alignment.width.toNat content.length := by
  rcases alignment with ⟨side, width⟩
  cases side with
  | left | right =>
      simp only [filled, spaces, String.length_append, String.length_ofList, List.length_replicate]
      omega

namespace Emission

variable {ε : Type}

theorem trace_writeAligned (content : String) (alignment : Alignment) :
    trace (writeAligned content alignment : Emission ε) = (alignment.filled content, .ok ()) := by
  rcases alignment with ⟨side, width⟩
  cases side <;> simp [writeAligned, Alignment.filled, trace]

theorem run_of_no_limit (refused : ε) (emission : Emission ε) (before : String) :
    emission.run refused ⟨none, before⟩ =
      (⟨none, before ++ emission.trace.1⟩, emission.trace.2) := by
  rw [run_eq_receive]
  rfl

end Emission

namespace Hole

variable {properties : Properties} (symbols : Symbols) {hole : Hole}

theorem render_of_unbound (unbound : properties hole.name = none) (before : String) :
    (Piece.hole hole).render properties symbols ⟨none, before⟩ =
      (⟨none, before ++ hole.raw⟩, .ok ()) := by
  simp only [Piece.render, Piece.emission, emission, unbound]
  rfl

variable {value : Value} (bound : properties hole.name = some value)
include bound

theorem render_of_unaligned (unaligned : hole.alignment = none) (before : String) :
    (Piece.hole hole).render properties symbols ⟨none, before⟩ =
      (⟨none, before ++ (value hole.format symbols).trace.1⟩,
        (value hole.format symbols).trace.2.mapError (.ofFormat hole.name)) := by
  have renamed := Emission.run_mapError FormatError.refused (RenderError.ofFormat hole.name)
    (value hole.format symbols) ⟨none, before⟩
  rw [Emission.run_of_no_limit .refused (value hole.format symbols)] at renamed
  simp only [Piece.render, Piece.emission, emission, bound, unaligned]
  exact renamed

theorem render_of_aligned {alignment : Alignment} (aligned : hole.alignment = some alignment)
    (before : String) :
    (Piece.hole hole).render properties symbols ⟨none, before⟩ =
      match (value hole.format symbols).trace with
      | (text, .ok ()) => (⟨none, before ++ alignment.filled text⟩, .ok ())
      | (_, .error error) => (⟨none, before⟩, .error (.ofFormat hole.name error)) := by
  simp only [Piece.render, Piece.emission, emission, bound, aligned, Emission.collect_eq_trace]
  rcases (value hole.format symbols).trace with ⟨text, outcome⟩
  cases outcome with
  | error error => rfl
  | ok =>
      simp only [Except.map, Emission.run_of_no_limit, Emission.trace_writeAligned]

end Hole

/-- Of two holes that differ in their alignment only, the one without it tells what the other
writes: its text filled up with spaces to the width, or nothing if it fails, with the same error. A
hole that is filled by no value is written as it is spelled. This holds of the values that write
into the sink themselves as of those that are collected first. -/
theorem Hole.alignment_only_pads (properties : Properties) (symbols : Symbols)
    {plain aligned : Hole} {alignment : Alignment} (name : aligned.name = plain.name)
    (format : aligned.format = plain.format) (unaligned : plain.alignment = none)
    (padded : aligned.alignment = some alignment) (before : String) :
    let render (hole : Hole) := (Piece.hole hole).render properties symbols ⟨none, before⟩
    (∀ hole, render hole = hole.stream properties symbols ⟨none, before⟩) ∧
      (properties plain.name = none →
        render plain = (⟨none, before ++ plain.raw⟩, .ok ()) ∧
          render aligned = (⟨none, before ++ aligned.raw⟩, .ok ())) ∧
      ((properties plain.name).isSome → ∃ text,
        (render plain).1 = ⟨none, before ++ text⟩ ∧
          ((render plain).2 = .ok () →
            render aligned = (⟨none, before ++ alignment.filled text⟩, .ok ()) ∧
              (alignment.filled text).length = max alignment.width.toNat text.length) ∧
          ∀ error, (render plain).2 = .error error →
            render aligned = (⟨none, before⟩, .error error)) := by
  intro render
  refine ⟨?_, ?_, ?_⟩
  · intro hole
    exact (hole.stream_eq_run properties symbols _).symm
  · intro unbound
    exact ⟨render_of_unbound symbols unbound before,
      render_of_unbound symbols (name ▸ unbound) before⟩
  · intro filled
    rcases Option.isSome_iff_exists.mp filled with ⟨value, bound⟩
    have alone := render_of_unaligned symbols bound unaligned before
    have beside := render_of_aligned symbols (name ▸ bound) padded before
    rw [format, name] at beside
    simp only [render, alone, beside]
    rcases (value plain.format symbols).trace with ⟨text, outcome⟩
    refine ⟨text, rfl, ?_, ?_⟩
    · intro ended
      cases outcome with
      | error error => cases ended
      | ok => exact ⟨rfl, alignment.length_filled text⟩
    · intro error failed
      cases outcome with
      | ok => cases failed
      | error cause => exact congrArg (Prod.mk _) failed

theorem Hole.alignment_only_pads_failing :
    let plain := Hole.ofName "A" 0
    let aligned := plain.set (.alignment ⟨.left, 4⟩)
    let render (value : Emission FormatError) (hole : Hole) :=
      (Piece.hole hole).render (fun _ => some fun _ _ => value) .invariant ⟨none, "> "⟩
    let whole : Emission FormatError := [.write "n", .write "é"]
    let cut : Emission FormatError := whole ++ [.fail (.custom "boom")]
    aligned.name = plain.name ∧ aligned.format = plain.format ∧ plain.alignment = none ∧
      aligned.alignment = some ⟨.left, 4⟩ ∧
      render whole plain = (⟨none, "> né"⟩, .ok ()) ∧
      render whole aligned = (⟨none, "> né  "⟩, .ok ()) ∧
      render cut plain = (⟨none, "> né"⟩, .error (.value "A" (.custom "boom"))) ∧
      render cut aligned = (⟨none, "> "⟩, .error (.value "A" (.custom "boom"))) := by
  intro plain aligned render whole cut
  have name : aligned.name = plain.name := rfl
  have format : aligned.format = plain.format := rfl
  have law (value : Emission FormatError) :=
    (Hole.alignment_only_pads (fun _ => some fun _ _ => value) .invariant name format
      rfl rfl "> ").2.2 rfl
  have written : render whole plain = (⟨none, "> né"⟩, .ok ()) := rfl
  have failed : render cut plain =
      (⟨none, "> né"⟩, .error (.value "A" (.custom "boom"))) := rfl
  rcases law whole with ⟨text, same, padded, -⟩
  rcases law cut with ⟨-, -, -, dropped⟩
  have text_eq : "né" = text := (String.append_right_inj "> ").mp (congrArg Sink.written same)
  refine ⟨name, format, rfl, rfl, written, ?_, failed, dropped _ (congrArg Prod.snd failed)⟩
  rw [← text_eq] at padded
  exact (padded (congrArg Prod.snd written)).1

end Stencil
