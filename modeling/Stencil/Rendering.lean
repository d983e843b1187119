import Stencil.Template.Basic
import Stencil.Value.Scalar

/-!
Rendering a template: each piece in order adds the steps that it writes, and a sink carries them
out. A hole whose property is missing is written as it is spelled.
-/

namespace Stencil

abbrev Properties := String → Option Value

/-- Of several bindings of one name the last counts. -/
def Properties.ofList (bindings : List (String × Value)) : Properties :=
  bindings.foldl (fun properties (name, value) other =>
    if other = name then some value else properties other) fun _ => none

inductive RenderError
  | value (property : String) (error : FormatError)
  | refused
  deriving DecidableEq

def RenderError.message : RenderError → String
  | value property error => "failed to format property `" ++ property ++ "`: " ++ error.message
  | refused => "failed to write rendered output"

/-- A refused write is the sink's failure, whichever value met it. -/
def RenderError.ofFormat (property : String) : FormatError → RenderError
  | .refused => .refused
  | error => .value property error

/-- The content filled up with spaces to the width, counted in characters. It is never cut. -/
def writeAligned {ε : Type} (content : String) (alignment : Alignment) : Emission ε :=
  let padding := alignment.width.toNat - content.length
  match alignment.side with
  | .left => [.write content, .pad padding]
  | .right => [.pad padding, .write content]

namespace Hole

/-- The content of an aligned hole is complete before any of it is written. -/
def emission (properties : Properties) (symbols : Symbols) (hole : Hole) : Emission RenderError :=
  match properties hole.name with
  | none => [.write hole.raw]
  | some value =>
      let content := value hole.format symbols
      match hole.alignment with
      | none => content.map (.mapError (.ofFormat hole.name))
      | some alignment =>
          match content.collect with
          | .ok text => writeAligned text alignment
          | .error error => [.fail (.ofFormat hole.name error)]

end Hole

namespace Piece

def emission (properties : Properties) (symbols : Symbols) : Piece → Emission RenderError
  | literal l => [.write l.text]
  | hole h => h.emission properties symbols

def render (properties : Properties) (symbols : Symbols) (piece : Piece) (sink : Sink) :
    Sink × Except RenderError Unit :=
  (piece.emission properties symbols).run .refused sink

end Piece

namespace Template

def emission (properties : Properties) (symbols : Symbols) (template : Template) :
    Emission RenderError :=
  template.pieces.flatMap (Piece.emission properties symbols)

def render (properties : Properties) (symbols : Symbols) (template : Template) (sink : Sink) :
    Sink × Except RenderError Unit :=
  (template.emission properties symbols).run .refused sink

def renderText (properties : Properties) (symbols : Symbols) (template : Template) :
    Except RenderError String :=
  let (sink, result) := template.render properties symbols .unlimited
  result.map fun _ => sink.written

end Template

end Stencil
