import Stencil.Piece
import Stencil.Text.Quoted

namespace Stencil.Command

def padLeft (width : Nat) (text : List Char) : List Char :=
  List.replicate (width - text.length) ' ' ++ text

def padRight (width : Nat) (text : List Char) : List Char :=
  text ++ List.replicate (width - text.length) ' '

def details (hole : Hole) : List (List Char) :=
  ["name=".toList ++ hole.name.toList]
    ++ hole.alignment.toList.map (fun alignment =>
      "alignment=".toList ++ signedDigits alignment.signed.toInt)
    ++ hole.format.toList.map (fun format => "format=".toList ++ (quoted format).toList)
    ++ hole.hint.sigil.toList.map (fun sigil => "hint=".toList ++ [sigil])

def describe : Piece → List Char
  | .literal literal => "literal      ".toList ++ (quoted literal.text).toList
  | .hole hole => "placeholder  ".toList ++ [' '].intercalate (details hole)

def listingLine (piece : Piece) : List Char :=
  padLeft 4 (digits piece.span.start) ++ "..".toList ++ padRight 4 (digits piece.span.stop)
    ++ ' ' :: describe piece ++ ['\n']

def listing (pieces : List Piece) : String := String.ofList (pieces.flatMap listingLine)

end Stencil.Command
