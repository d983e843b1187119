import Stencil.Hole.Basic

namespace Stencil

/-- Text that is written as it stands. Doubled braces are single here, so the text may be shorter
than its source. -/
structure Literal where
  text : String
  span : Span

def Literal.ofText (text : String) (start : UInt64) : Literal :=
  ⟨text, (WordSpan.ofLength start text.utf8ByteSize).span⟩

def Literal.length (literal : Literal) : Nat := literal.text.utf8ByteSize

/-- Literals are alike when their texts are. -/
instance : BEq Literal where
  beq a b := a.text == b.text

instance : Hashable Literal where
  hash literal := hash literal.text

inductive Piece
  | literal (literal : Literal)
  | hole (hole : Hole)
  deriving BEq, Hashable

namespace Piece

def span : Piece → Span
  | literal l => l.span
  | hole h => h.span

def wordSpan : Piece → WordSpan
  | literal l => ⟨.ofNat l.span.start, .ofNat l.span.stop⟩
  | hole h => h.wordSpan

def start (piece : Piece) : Nat := piece.span.start

def length : Piece → Nat
  | literal l => l.length
  | hole h => h.length

def text : Piece → String
  | literal l => l.text
  | hole h => h.raw

def hole? : Piece → Option Hole
  | literal _ => none
  | hole h => some h

end Piece

end Stencil
