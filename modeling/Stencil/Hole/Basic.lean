import Stencil.Numeral.Decimal
import Stencil.Text.Span

/-!
A hole stands in a template for the value of a property. It is written in braces: a sigil that
gives the hint, the name, and after `,` the alignment and after `:` the format. An alignment is the
side that the content keeps to and the least number of characters it takes, written as one signed
number, negative for the left side.
-/

namespace Stencil

inductive Side
  | left
  | right
  deriving DecidableEq, Hashable

structure Alignment where
  side : Side
  width : UInt64
  deriving DecidableEq, Hashable

def Alignment.ofSigned (width : Int32) : Option Alignment :=
  if width = 0 then none
  else some ⟨if width < 0 then .left else .right, UInt64.ofNat width.toInt.natAbs⟩

def Alignment.signed : Alignment → Int64
  | ⟨.left, width⟩ => -width.toInt64
  | ⟨.right, width⟩ => width.toInt64

inductive Hint
  | plain
  | stringify
  | destructure
  deriving DecidableEq, Hashable

def Hint.ofSigil : Char → Option Hint
  | '$' => some stringify
  | '@' => some destructure
  | _ => none

def Hint.sigil : Hint → Option Char
  | plain => none
  | stringify => some '$'
  | destructure => some '@'

theorem Hint.ofSigil_eq_some_iff {c : Char} {hint : Hint} :
    ofSigil c = some hint ↔ hint.sigil = some c := by
  unfold ofSigil
  split <;> cases hint <;> simp_all [sigil, eq_comm]

/-- `raw` is the hole as the template writes it, braces included. `start` is its place in the text
that is read, or the word of 64 bits that the maker of the hole gives. -/
structure Hole where
  name : String
  raw : String
  alignment : Option Alignment
  format : Option String
  hint : Hint
  start : Nat

namespace Hole

def spelling (hint : Hint) (name : String) (alignment : Option Alignment)
    (format : Option String) : String :=
  String.ofList <|
    '{' :: hint.sigil.toList ++ name.toList
      ++ (alignment.elim [] fun a => ',' :: signedDigits a.signed.toInt)
      ++ (format.elim [] fun f => ':' :: f.toList) ++ ['}']

def respelled (hole : Hole) : Hole :=
  { hole with raw := spelling hole.hint hole.name hole.alignment hole.format }

def ofName (name : String) (start : UInt64) : Hole :=
  respelled ⟨name, "", none, none, .plain, start.toNat⟩

inductive Directive
  | alignment (alignment : Alignment)
  | format (format : String)
  | hint (hint : Hint)

def set (hole : Hole) : Directive → Hole
  | .alignment alignment => respelled { hole with alignment := some alignment }
  | .format format => respelled { hole with format := some format }
  | .hint hint => respelled { hole with hint := hint }

def length (hole : Hole) : Nat := hole.raw.utf8ByteSize

/-- The part of the text that is read. -/
def span (hole : Hole) : Span := ⟨hole.start, hole.start + hole.length⟩

/-- The span as it is told, in words. -/
def wordSpan (hole : Hole) : WordSpan := .ofLength (.ofNat hole.start) hole.length

theorem wordSpan_eq_span_iff (hole : Hole) :
    hole.wordSpan.span = hole.span ↔ hole.start + hole.length < UInt64.size := by
  by_cases small : hole.start < UInt64.size
  · have start : (UInt64.ofNat hole.start).toNat = hole.start := UInt64.toNat_ofNat_of_lt' small
    have told := @WordSpan.span_ofLength_iff (.ofNat hole.start) hole.length
    rwa [start] at told
  · constructor
    · intro same
      have start : (UInt64.ofNat hole.start).toNat = hole.start := congrArg Span.start same
      exact absurd (start ▸ UInt64.toNat_lt_size _) small
    · intro fits
      exact absurd (Nat.lt_of_le_of_lt (Nat.le_add_right _ _) fits) small

/-- A name of decimal digits is an index, if it fits a word of 64 bits. -/
def index (hole : Hole) : Option UInt64 :=
  let name := hole.name.toList
  if isDigits name && digitsValue name < UInt64.size then some (UInt64.ofNat (digitsValue name))
  else none

def isPositional (hole : Hole) : Bool := hole.index.isSome

/-- Holes are alike when their directives are: neither place nor spelling counts. -/
instance : BEq Hole where
  beq a b := a.name == b.name && a.alignment == b.alignment && a.format == b.format
    && a.hint == b.hint

instance : Hashable Hole where
  hash hole := hash (hole.name, hole.alignment, hole.format, hole.hint)

end Hole

end Stencil
