import Stencil.Proofs.Building
import Stencil.Proofs.Padding

/-!
The width of an alignment is an unsigned word of 64 bits, and its signed form a signed one. The
signed form, and the raw text of a hole that is made from it, tell the alignment if the width with
its sign fits the signed word. If it does not, they tell the other side.
-/

namespace Stencil

namespace Alignment

section

variable {alignment : Alignment} (positive : 1 ≤ alignment.width.toNat)
include positive

end

end Alignment

end Stencil
