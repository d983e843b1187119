import Stencil.Rendering

/-!
Rendering straight into a sink, piece by piece. A value without an alignment writes into the sink
itself, so the sink's refusal comes back as a failure of the value, and only then is told apart
from the failures that the value has of its own.
-/

namespace Stencil

def Sink.andThen {ε : Type} (next : Sink → Sink × Except ε Unit) :
    Sink × Except ε Unit → Sink × Except ε Unit
  | (sink, .ok ()) => next sink
  | (sink, .error error) => (sink, .error error)

def Sink.writeText (text : String) (sink : Sink) : Sink × Except RenderError Unit :=
  match sink.write text with
  | (sink, true) => (sink, .ok ())
  | (sink, false) => (sink, .error .refused)

/-- Writes spaces one by one. -/
def Sink.writeSpaces : Nat → Sink → Sink × Except RenderError Unit
  | 0, sink => (sink, .ok ())
  | count + 1, sink => Sink.andThen (writeSpaces count) (sink.writeText " ")

def Sink.writeAligned (content : String) (alignment : Alignment) (sink : Sink) :
    Sink × Except RenderError Unit :=
  let padding := alignment.width.toNat - content.length
  match alignment.side with
  | .left => Sink.andThen (writeSpaces padding) (sink.writeText content)
  | .right => Sink.andThen (writeText content) (sink.writeSpaces padding)

def Hole.stream (properties : Properties) (symbols : Symbols) (hole : Hole) (sink : Sink) :
    Sink × Except RenderError Unit :=
  match properties hole.name with
  | none => sink.writeText hole.raw
  | some value =>
      match hole.alignment with
      | none =>
          let (sink, result) := (value hole.format symbols).run .refused sink
          (sink, result.mapError (.ofFormat hole.name))
      | some alignment =>
          match (value hole.format symbols).run .refused .unlimited with
          | (buffer, .ok ()) => sink.writeAligned buffer.written alignment
          | (_, .error error) => (sink, .error (.ofFormat hole.name error))

def Piece.stream (properties : Properties) (symbols : Symbols) :
    Piece → Sink → Sink × Except RenderError Unit
  | literal l, sink => sink.writeText l.text
  | hole h, sink => h.stream properties symbols sink

def streamed (properties : Properties) (symbols : Symbols) :
    List Piece → Sink → Sink × Except RenderError Unit
  | [], sink => (sink, .ok ())
  | piece :: rest, sink =>
      Sink.andThen (streamed properties symbols rest) (piece.stream properties symbols sink)

end Stencil
