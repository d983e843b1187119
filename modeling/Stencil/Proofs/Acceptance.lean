import Mathlib.Data.List.Forall2
import Stencil.Proofs.Output
import Stencil.Proofs.Parsing
import Stencil.Proofs.Segments

namespace Stencil

def Composes (segments : List Segment) (text : String) : Prop :=
  (∀ segment ∈ segments, segment.IsValid) ∧ text.toList = segments.flatMap Segment.source

namespace Segment

def template (segment : Segment) : Template := .parse (String.ofList segment.source)

theorem emission_fragment (properties : Properties) (symbols : Symbols) (segment : Segment)
    (place other : Nat) :
    (segment.fragment place).piece.emission properties symbols =
      (segment.fragment other).piece.emission properties symbols := by
  cases segment <;> rfl

theorem emission_template (properties : Properties) (symbols : Symbols) {segment : Segment}
    (valid : segment.IsValid) (place : Nat) :
    segment.template.emission properties symbols =
      (segment.fragment place).piece.emission properties symbols := by
  have scanned : scanned 0 segment.source = ⟨[(segment.fragment 0).piece], []⟩ := by
    have alone := scanned_eq 0 valid []
    rw [List.append_nil, scanned_nil, Parsed.attach, Piece.attach_nil] at alone
    exact alone
  rw [template, Template.emission, Template.pieces_parse, String.toList_ofList, scanned,
    List.flatMap_singleton]
  exact emission_fragment properties symbols segment 0 place

end Segment

section

variable {properties : Properties} {symbols : Symbols}

theorem exists_texts_of_trace {segments : List Segment}
    (valid : ∀ segment ∈ segments, segment.IsValid) {place : Nat} {text : String}
    (written : Emission.trace ((joined (fragments place segments)).flatMap
      (Piece.emission properties symbols)) = (text, .ok ())) :
    ∃ texts, List.Forall₂ (fun (segment : Segment) text =>
        segment.template.renderText properties symbols = .ok text) segments texts ∧
      text = String.join texts := by
  induction segments generalizing place text with
  | nil =>
      rcases Prod.mk.inj written with ⟨rfl, -⟩
      exact ⟨[], .nil, rfl⟩
  | cons segment rest ih =>
      have first := valid segment List.mem_cons_self
      have others : ∀ segment ∈ rest, segment.IsValid := by
        intro segment member
        exact valid segment (List.mem_cons_of_mem _ member)
      -- A literal may be joined with the one after it; the trace does not tell.
      rw [fragments, joined_cons, trace_attach,
        ← Segment.emission_template properties symbols first place] at written
      rcases Emission.trace_append_eq_ok written with ⟨head, tail, alone, later, rfl⟩
      rcases ih others later with ⟨texts, renderings, rfl⟩
      have rendered := (Template.renderText_eq_ok_iff properties symbols).mpr alone
      exact ⟨head :: texts, .cons rendered renderings, String.join_cons.symm⟩

end

/-- A template has no diagnostic exactly if it is composed of segments. However it is composed, its
pieces are those of the segments, with literals joined; and where it is rendered into a sink, what
is written there is what the segments are rendered as, one after the other. -/
theorem Template.check_eq_nil_iff_composes (text : String) :
    (check text = [] ↔ ∃ segments, Composes segments text) ∧
      ∀ segments, Composes segments text →
        (parse text).pieces = joined (fragments 0 segments) ∧
          ∀ (properties : Properties) (symbols : Symbols) (sink after : Sink),
            (parse text).render properties symbols sink = (after, .ok ()) →
              ∃ texts, List.Forall₂ (fun (segment : Segment) text =>
                  segment.template.renderText properties symbols = .ok text) segments texts ∧
                after.written = sink.written ++ String.join texts := by
  have scanned_of {segments : List Segment} (composed : Composes segments text) :
      scanned 0 text.toList = ⟨joined (fragments 0 segments), []⟩ := by
    rw [composed.2]
    exact scanned_segments 0 composed.1
  refine ⟨⟨?_, ?_⟩, ?_⟩
  · intro clean
    rw [check_eq_scanned] at clean
    exact exists_segments_of_scanned 0 text.toList clean
  · intro composition
    rcases composition with ⟨segments, composed⟩
    rw [check_eq_scanned, scanned_of composed]
  · intro segments composed
    have pieces : (parse text).pieces = joined (fragments 0 segments) := by
      rw [pieces_parse, scanned_of composed]
    refine ⟨pieces, ?_⟩
    intro properties symbols sink after rendered
    rw [render, Emission.run_eq_receive] at rendered
    rcases Sink.receive_eq_ok rendered with ⟨ended, written⟩
    rw [emission, pieces] at ended written
    rcases exists_texts_of_trace composed.1 (Prod.ext rfl ended) with ⟨texts, renderings, whole⟩
    refine ⟨texts, renderings, ?_⟩
    calc
      after.written = sink.written ++ _ := written
      _ = sink.written ++ String.join texts := congrArg (sink.written ++ ·) whole

theorem Template.render_hole_in_doubled_braces :
    let segments : List Segment :=
      [.openPair, .hole ⟨.destructure, ['A'], some ['-', '9'], some ['{']⟩, .closePair]
    let template := Template.parse (String.ofList (segments.flatMap Segment.source))
    let properties : Properties := fun _ => some (Scalar.str "a").value
    Composes segments template.text ∧ template.pieces = joined (fragments 0 segments) ∧
      template.render properties .invariant .unlimited =
        (⟨none, "\x7b\"a\"      \x7d"⟩, .ok ()) ∧
      ∃ texts, List.Forall₂ (fun (segment : Segment) text =>
          segment.template.renderText properties .invariant = .ok text) segments texts ∧
        "\x7b\"a\"      \x7d" = "" ++ String.join texts := by
  intro segments template properties
  have alignment : IsAlignment ['-', '9'] := .inr ⟨['9'], rfl, by decide, by decide, by decide⟩
  have hole : Spelling.IsValid ⟨.destructure, ['A'], some ['-', '9'], some ['{']⟩ := by
    refine ⟨by decide +kernel, ?_, ?_⟩
    · simpa using alignment
    · simp
  have valid : ∀ segment ∈ segments, segment.IsValid := by
    simpa [segments, Segment.IsValid] using hole
  have composed : Composes segments template.text := ⟨valid, String.toList_ofList⟩
  rcases (check_eq_nil_iff_composes template.text).2 segments composed with ⟨pieces, rendered⟩
  have run : template.render properties .invariant .unlimited =
      (⟨none, "\x7b\"a\"      \x7d"⟩, .ok ()) := by
    rw [render, emission, show template.pieces = _ from pieces]
    rfl
  exact ⟨composed, pieces, run, rendered _ _ _ _ run⟩

end Stencil
