import Stencil.Template.Parsing

namespace Stencil

structure Template where
  text : String
  pieces : List Piece

namespace Template

def parse (text : String) : Template := ⟨text, (Stencil.parse text.toList).pieces⟩

def check (text : String) : List Diagnostic := (Stencil.parse text.toList).diagnostics

/-- Takes pieces made elsewhere; they need not fit the text. -/
def ofPieces (text : String) (pieces : List Piece) : Template := ⟨text, pieces⟩

def holes (template : Template) : List Hole := template.pieces.filterMap Piece.hole?

/-- A template goes by position if all its holes do, and it has one. -/
def isPositional (template : Template) : Bool :=
  !template.holes.isEmpty && template.holes.all Hole.isPositional

def isMixed (template : Template) : Bool :=
  !template.isPositional && template.holes.any Hole.isPositional

def named (template : Template) : List Hole :=
  if template.isPositional then [] else template.holes

def positional (template : Template) : List Hole :=
  if template.isPositional then template.holes else []

/-- Templates are alike when their texts are. -/
instance : BEq Template where
  beq a b := a.text == b.text

instance : Hashable Template where
  hash template := hash template.text

end Template

end Stencil
