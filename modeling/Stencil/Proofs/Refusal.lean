import Mathlib.Control.Monad.Basic
import Stencil.Proofs.Streaming

namespace Stencil

namespace NumberKind

def letters : NumberKind → List Char
  | integer => ['D', 'd', 'X', 'x', 'F', 'f', 'N', 'n']
  | float => ['F', 'f', 'N', 'n']

/-- A letter of the kind, and at most two decimal digits. -/
def Supports (kind : NumberKind) (format : String) : Prop :=
  ∃ letter count, format.toList = letter :: count ∧ letter ∈ kind.letters ∧
    count.length ≤ 2 ∧ ∀ c ∈ count, c.isDigit

def accepts : NumberKind → Specifier → Bool
  | integer, _ => true
  | float, .fixed _ | float, .grouped _ => true
  | float, .decimal _ | float, .hexadecimal _ _ => false

end NumberKind

def Scalar.kind? : Scalar → Option NumberKind
  | int _ => some .integer
  | float _ => some .float
  | null | bool _ | str _ => none

/-- The hole has a format that the number which fills it does not support. -/
structure Hole.Mismatch (bound : String → Option Scalar) (hole : Hole) (format : String)
    (kind : NumberKind) : Prop where
  format_eq : hole.format = some format
  number : (bound hole.name).bind Scalar.kind? = some kind
  unsupported : ¬ kind.Supports format

def Properties.ofScalars (bound : String → Option Scalar) : Properties :=
  fun name => (bound name).map Scalar.value

theorem isSome_readCount {default : Nat} {count : List Char} :
    (readCount default count).isSome ↔ count.length ≤ 2 ∧ ∀ c ∈ count, c.isDigit := by
  unfold readCount
  split
  · next empty => simp [List.isEmpty_iff.mp empty]
  · simp

namespace NumberKind

theorem supports_letter {kind : NumberKind} {letter : Char} {count : List Char} {default : Nat}
    {make : Nat → Specifier} (same : ∀ n, kind.accepts (make n) ↔ letter ∈ kind.letters) :
    (∃ first rest, letter :: count = first :: rest ∧ first ∈ kind.letters ∧ rest.length ≤ 2 ∧
        ∀ c ∈ rest, c.isDigit) ↔
      ∃ specifier, (readCount default count).map make = some specifier ∧
        kind.accepts specifier := by
  have digits : (readCount default count).isSome ↔ _ := isSome_readCount
  constructor
  · intro supported
    rcases supported with ⟨first, rest, split, known, few⟩
    rcases List.cons.inj split with ⟨rfl, rfl⟩
    rcases Option.isSome_iff_exists.mp (digits.mpr few) with ⟨n, found⟩
    refine ⟨make n, ?_, (same n).mpr known⟩
    rw [found]
    rfl
  · intro accepted
    rcases accepted with ⟨specifier, read, accepted⟩
    rcases Option.map_eq_some_iff.mp read with ⟨n, found, rfl⟩
    have few := digits.mp (Option.isSome_of_mem found)
    exact ⟨letter, count, rfl, (same n).mp accepted, few⟩

theorem supports_iff (kind : NumberKind) (format : String) :
    kind.Supports format ↔
      ∃ specifier, Specifier.read format.toList = some specifier ∧ kind.accepts specifier := by
  unfold Supports
  generalize format.toList = text
  fun_cases Specifier.read text with
  | case1 | case2 | case3 | case4 | case5 | case6 | case7 | case8 =>
      apply supports_letter
      intro n
      cases kind <;> simp [accepts, letters]
  | case9 =>
      constructor
      · intro supported
        rcases supported with ⟨letter, count, rfl, known, -⟩
        cases kind <;> simp [letters] at known <;> simp_all
      · intro accepted
        rcases accepted with ⟨specifier, read, -⟩
        cases read

end NumberKind

namespace Emission

variable {ε δ : Type}

/-- No step fails of its own. -/
def IsTotal (emission : Emission ε) : Prop := ∀ error, .fail error ∉ emission

theorem IsTotal.append {a b : Emission ε} (first : a.IsTotal) (second : b.IsTotal) :
    (a ++ b : Emission ε).IsTotal := by
  intro error member
  rcases List.mem_append.mp member with member | member
  · exact first error member
  · exact second error member

theorem IsTotal.mapError {emission : Emission ε} (total : emission.IsTotal) (f : ε → δ) :
    IsTotal (emission.map (.mapError f)) := by
  intro error member
  rcases List.mem_map.mp member with ⟨step, inside, same⟩
  cases step with
  | fail error => exact total error inside
  | write | pad => cases same

theorem IsTotal.trace_eq {emission : Emission ε} (total : emission.IsTotal) :
    emission.trace = (emission.trace.1, .ok ()) := by
  induction emission with
  | nil => rfl
  | cons step rest ih =>
      have later : IsTotal rest := fun error member => total error (List.mem_cons_of_mem _ member)
      cases step with
      | fail error => exact absurd List.mem_cons_self (total error)
      | write | pad => rw [trace, ih later]

theorem isTotal_write (text : String) : IsTotal ([.write text] : Emission ε) := by
  intro error
  simp

theorem IsTotal.collect_eq {emission : Emission FormatError} (total : emission.IsTotal) :
    emission.collect = .ok emission.trace.1 := by
  rw [collect_eq_trace, total.trace_eq]
  rfl

end Emission

section

variable (symbols : Symbols)

theorem isTotal_writeMinus (negative : Bool) : (writeMinus negative symbols).IsTotal := by
  intro error
  cases negative <;> simp [writeMinus]

theorem isTotal_writeDecimal (groups : Bool) (decimal : Decimal) :
    (writeDecimal symbols groups decimal).IsTotal := by
  intro error
  cases fraction : decimal.fraction.isEmpty <;> simp [writeDecimal, fraction]

theorem isTotal_writeDouble (x : Double) (groups : Bool) (decimal : Decimal) :
    (writeDouble x symbols groups decimal).IsTotal := by
  have minus (negative : Bool) := isTotal_writeMinus symbols negative
  rw [writeDouble]
  split
  · intro error
    simp
  split
  · apply (minus x.isNegative).append
    intro error
    simp
  · exact (minus _).append (isTotal_writeDecimal symbols groups decimal)

theorem isTotal_writeInteger (value : Int64) {format : Option String}
    (supported : ∀ text ∈ format, NumberKind.integer.Supports text) :
    (writeInteger value format symbols).IsTotal := by
  have minus := isTotal_writeMinus symbols (value < 0)
  cases format with
  | none => exact minus.append (Emission.isTotal_write _)
  | some text =>
      rcases (NumberKind.supports_iff _ _).mp (supported text rfl) with ⟨specifier, read, -⟩
      simp only [writeInteger, read]
      cases specifier with
      | decimal width => exact minus.append (Emission.isTotal_write _)
      | hexadecimal upper width => exact Emission.isTotal_write _
      | fixed places | grouped places => exact minus.append (isTotal_writeDecimal symbols _ _)

theorem isTotal_writeFloat (x : Double) {format : Option String}
    (supported : ∀ text ∈ format, NumberKind.float.Supports text) :
    (writeFloat x format symbols).IsTotal := by
  cases format with
  | none => exact isTotal_writeDouble symbols x _ _
  | some text =>
      rcases (NumberKind.supports_iff _ _).mp (supported text rfl) with
        ⟨specifier, read, accepted⟩
      simp only [writeFloat, read]
      cases specifier with
      | fixed places | grouped places => exact isTotal_writeDouble symbols x _ _
      | decimal | hexadecimal => cases accepted

end

namespace Scalar

variable (scalar : Scalar) (symbols : Symbols)

theorem isTotal_value {format : Option String}
    (supported : ∀ kind ∈ scalar.kind?, ∀ text ∈ format, kind.Supports text) :
    (scalar.value format symbols).IsTotal := by
  cases scalar with
  | null | bool => exact Emission.isTotal_write _
  | int value => exact isTotal_writeInteger symbols value (supported .integer rfl)
  | float x => exact isTotal_writeFloat symbols x (supported .float rfl)
  | str text =>
      rw [value, writeString]
      split <;> exact Emission.isTotal_write _

theorem value_of_not_supports {kind : NumberKind} {format : String}
    (number : scalar.kind? = some kind) (unsupported : ¬ kind.Supports format) :
    scalar.value (some format) symbols = [.fail (.unsupported format kind)] := by
  rw [NumberKind.supports_iff] at unsupported
  cases scalar with
  | null | bool | str => cases number
  | int n =>
      rcases Option.some.inj number with rfl
      cases read : Specifier.read format.toList with
      | none => simp only [value, writeInteger, read]
      | some specifier => exact absurd ⟨specifier, read, rfl⟩ unsupported
  | float x =>
      rcases Option.some.inj number with rfl
      cases read : Specifier.read format.toList with
      | none => simp only [value, writeFloat, read]
      | some specifier =>
          cases specifier with
          | decimal | hexadecimal => simp only [value, writeFloat, read]
          | fixed | grouped => exact absurd ⟨_, read, rfl⟩ unsupported

end Scalar

section

variable (bound : String → Option Scalar) (symbols : Symbols)

namespace Hole

variable {bound} {hole : Hole}

theorem isTotal_emission (fits : ∀ format kind, ¬ hole.Mismatch bound format kind) :
    (hole.emission (.ofScalars bound) symbols).IsTotal := by
  rw [emission, Properties.ofScalars]
  cases filled : bound hole.name with
  | none => exact Emission.isTotal_write hole.raw
  | some scalar =>
      have total : (scalar.value hole.format symbols).IsTotal := by
        apply scalar.isTotal_value symbols
        intro kind number format given
        have number : (bound hole.name).bind Scalar.kind? = some kind := by
          rw [filled]
          exact number
        apply Classical.byContradiction
        intro unsupported
        exact fits format kind ⟨given, number, unsupported⟩
      rw [Option.map_some]
      cases hole.alignment with
      | none => exact total.mapError _
      | some alignment =>
          simp only [total.collect_eq, writeAligned]
          intro error
          cases alignment.side <;> simp

theorem emission_of_mismatch {format : String} {kind : NumberKind}
    (mismatch : hole.Mismatch bound format kind) :
    hole.emission (.ofScalars bound) symbols =
      [.fail (.value hole.name (.unsupported format kind))] := by
  rcases mismatch with ⟨given, number, unsupported⟩
  rcases Option.bind_eq_some_iff.mp number with ⟨scalar, filled, number⟩
  have content := scalar.value_of_not_supports symbols number unsupported
  simp only [emission, Properties.ofScalars, filled, Option.map_some, given, content]
  cases hole.alignment <;> rfl

end Hole

def Fits (bound : String → Option Scalar) (pieces : List Piece) : Prop :=
  ∀ hole ∈ pieces.filterMap Piece.hole?, ∀ format kind, ¬ hole.Mismatch bound format kind

variable {bound} {pieces : List Piece}

theorem fits_cons_literal {l : Literal} :
    Fits bound (.literal l :: pieces) ↔ Fits bound pieces := Iff.rfl

theorem fits_cons_hole {h : Hole} :
    Fits bound (.hole h :: pieces) ↔
      (∀ format kind, ¬ h.Mismatch bound format kind) ∧ Fits bound pieces :=
  List.forall_mem_cons

theorem Fits.isTotal (fits : Fits bound pieces) :
    Emission.IsTotal (pieces.flatMap (Piece.emission (.ofScalars bound) symbols)) := by
  intro error member
  rcases List.mem_flatMap.mp member with ⟨piece, inside, failing⟩
  cases piece with
  | literal l => exact Emission.isTotal_write l.text error failing
  | hole h =>
      have fitting := fits h (List.mem_filterMap.mpr ⟨_, inside, rfl⟩)
      exact Hole.isTotal_emission symbols fitting error failing

theorem fits_or_exists_mismatch (bound : String → Option Scalar) (pieces : List Piece) :
    Fits bound pieces ∨ ∃ before hole after format kind,
      pieces = before ++ .hole hole :: after ∧ Fits bound before ∧
        hole.Mismatch bound format kind := by
  induction pieces with
  | nil => exact .inl nofun
  | cons piece rest ih =>
      cases piece with
      | literal l =>
          rcases ih with fits | ⟨before, hole, after, format, kind, rfl, fits, mismatch⟩
          · exact .inl (fits_cons_literal.mpr fits)
          · exact .inr ⟨.literal l :: before, hole, after, format, kind, rfl,
              fits_cons_literal.mpr fits, mismatch⟩
      | hole h =>
          by_cases first : ∃ format kind, h.Mismatch bound format kind
          · rcases first with ⟨format, kind, mismatch⟩
            exact .inr ⟨[], h, rest, format, kind, rfl, nofun, mismatch⟩
          · have first : ∀ format kind, ¬ h.Mismatch bound format kind := by
              simpa only [not_exists] using first
            rcases ih with fits | ⟨before, hole, after, format, kind, rfl, fits, mismatch⟩
            · exact .inl (fits_cons_hole.mpr ⟨first, fits⟩)
            · exact .inr ⟨.hole h :: before, hole, after, format, kind, rfl,
                fits_cons_hole.mpr ⟨first, fits⟩, mismatch⟩

theorem trace_of_mismatch {before : List Piece} {hole : Hole} {format : String}
    {kind : NumberKind} (fits : Fits bound before) (mismatch : hole.Mismatch bound format kind)
    (after : List Piece) :
    Emission.trace ((before ++ .hole hole :: after).flatMap
        (Piece.emission (.ofScalars bound) symbols)) =
      ((Emission.trace (before.flatMap (Piece.emission (.ofScalars bound) symbols))).1,
        .error (.value hole.name (.unsupported format kind))) := by
  have failing : Piece.emission (.ofScalars bound) symbols (.hole hole) = _ :=
    Hole.emission_of_mismatch symbols mismatch
  rw [List.flatMap_append, List.flatMap_cons, failing, Emission.trace_append,
    (fits.isTotal symbols).trace_eq]
  simp [Emission.trace]

end

namespace Template

theorem render_unlimited (template : Template) (properties : Properties) (symbols : Symbols) :
    template.render properties symbols .unlimited =
      (⟨none, (template.emission properties symbols).trace.1⟩,
        (template.emission properties symbols).trace.2) := by
  rw [render, Emission.run_eq_receive, Sink.receive_unlimited]

/-- Rendering with scalars succeeds exactly if each number supports the format of its hole. If not,
the error names the first hole where it does not, and what has been written is what the pieces
before that hole are rendered as. -/
theorem render_scalars (template : Template) (bound : String → Option Scalar)
    (symbols : Symbols) :
    let render (template : Template) := template.render (.ofScalars bound) symbols .unlimited
    ((render template).2 = .ok () ↔ Fits bound template.pieces) ∧
      ∀ error, (render template).2 = .error error → ∃ before hole after format kind,
        template.pieces = before ++ .hole hole :: after ∧ Fits bound before ∧
          hole.Mismatch bound format kind ∧
          error = .value hole.name (.unsupported format kind) ∧
          render (ofPieces template.text before) = ((render template).1, .ok ()) := by
  intro render
  have rendered (template : Template) : render template = _ :=
    template.render_unlimited (.ofScalars bound) symbols
  have whole {pieces : List Piece} (fits : Fits bound pieces) :
      (Emission.trace (pieces.flatMap (Piece.emission (.ofScalars bound) symbols))).2 = .ok () :=
    congrArg Prod.snd (fits.isTotal symbols).trace_eq
  simp only [rendered]
  rcases fits_or_exists_mismatch bound template.pieces with
    fits | ⟨before, hole, after, format, kind, split, fits, mismatch⟩
  · have ended : (template.emission (.ofScalars bound) symbols).trace.2 = .ok () := whole fits
    refine ⟨iff_of_true ended fits, ?_⟩
    intro error failed
    rw [ended] at failed
    cases failed
  · have ended := trace_of_mismatch symbols fits mismatch after
    rw [← split, ← emission] at ended
    have misfit : ¬ Fits bound template.pieces := by
      intro fits
      apply fits hole _ format kind mismatch
      rw [split]
      simp [Piece.hole?]
    rw [ended]
    refine ⟨iff_of_false (by simp) misfit, ?_⟩
    intro error failed
    refine ⟨before, hole, after, format, kind, split, fits, mismatch,
      (Except.error.inj failed).symm, ?_⟩
    exact Prod.ext rfl (whole fits)

theorem render_scalars_mismatch :
    let bound (name : String) : Option Scalar :=
      if name = "A" then some (.int (-7)) else some (.float ⟨0⟩)
    let template := parse "\x7bA:d4\x7d \x7bB,-9:X2\x7d!"
    template.render (.ofScalars bound) .invariant .unlimited =
        (⟨none, "-0007 "⟩, .error (.value "B" (.unsupported "X2" .float))) ∧
      ¬ Fits bound template.pieces ∧
      ∃ before hole after format kind,
        template.pieces = before ++ .hole hole :: after ∧ Fits bound before ∧
          hole.Mismatch bound format kind ∧
          RenderError.value "B" (.unsupported "X2" .float) =
            .value hole.name (.unsupported format kind) ∧
          (ofPieces template.text before).render (.ofScalars bound) .invariant .unlimited =
            (⟨none, "-0007 "⟩, .ok ()) := by
  intro bound template
  have rendered : template.render (.ofScalars bound) .invariant .unlimited =
      (⟨none, "-0007 "⟩, .error (.value "B" (.unsupported "X2" .float))) := by decide +kernel
  rcases render_scalars template bound .invariant with ⟨fits, stops⟩
  simp only [rendered] at fits stops
  exact ⟨rendered, by simpa using fits, stops _ rfl⟩

end Template

end Stencil
