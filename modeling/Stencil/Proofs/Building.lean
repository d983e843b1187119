import Stencil.Proofs.Reading
import Stencil.Proofs.Reprinting
import Stencil.Proofs.RoundTrip

namespace Stencil

namespace Alignment

/-- The width fits a signed word of 64 bits. -/
def Fits (alignment : Alignment) : Prop := alignment.width.toNat ≤ 9223372036854775807

theorem IsWritable.fits {alignment : Alignment} (writable : alignment.IsWritable) :
    alignment.Fits := by
  rcases alignment with ⟨side, width⟩
  cases side with
  | left | right => exact Nat.le_trans writable.2 (by decide)

end Alignment

namespace Hole

namespace Directive

end Directive

section

variable (directives : List Directive) (hole : Hole)

end

/-- A hole made from a name alone, or read from a template. -/
def IsGiven (hole : Hole) : Prop :=
  (∃ name start, hole = ofName name start) ∨ ∃ text, .hole hole ∈ (Template.parse text).pieces

theorem IsGiven.fits {hole : Hole} (given : hole.IsGiven) :
    ∀ alignment ∈ hole.alignment, alignment.Fits := by
  intro alignment present
  obtain ⟨name, start, rfl⟩ | ⟨text, member⟩ := given
  · cases present
  · rw [Template.pieces_parse] at member
    obtain ⟨spelling, valid, same⟩ := isReadable_scanned 0 text.toList _ member
    rw [same, Spelling.hole] at present
    obtain ⟨digits, asked, read⟩ := Option.bind_eq_some_iff.mp present
    obtain ⟨told, also, -, writable⟩ := (valid.alignment digits asked).exists_told
    obtain rfl := Option.some.inj (read.symm.trans also)
    exact writable.fits

end Hole

end Stencil
