import Stencil.Diagnostic
import Stencil.Text.Classes
import Stencil.Text.Lines

/-!
A diagnostic shown in colour on the line that it is about. The span is marked below the line, from
its middle a rule leads to the message. Offsets are taken as characters of the text here, and a
span that the text does not hold is not shown.
-/

namespace Stencil

namespace Report

inductive Shade
  | frame
  | margin
  | source
  | mark

def Shade.code : Shade → List Char
  | frame => "38;5;246".toList
  | margin => "38;5;240".toList
  | source => "38;5;249".toList
  | mark => "33".toList

def shade (shade : Shade) (text : List Char) : List Char :=
  "\x1b[".toList ++ shade.code ++ 'm' :: text ++ "\x1b[0m".toList

def blanks (count : Nat) : List Char := List.replicate count ' '

def title : List Char := shade .mark "Warning:".toList ++ " fragment rendered as literal text".toList

/-- What stands left of a line that is not the source's. `width` is that of its line number. -/
def margin (width : Nat) : List Char := ' ' :: shade .margin (blanks (width + 1) ++ ['│']) ++ [' ']

def place (filename : String) (line : Line) (start : Nat) : List Char :=
  filename.toList ++ ':' :: digits line.number ++ ':' :: digits (start - line.start + 1)

def heading (filename : String) (line : Line) (start : Nat) : List Char :=
  shade .frame ['╭'] ++ shade .frame ['─'] ++ shade .frame ['['] ++ place filename line start
    ++ shade .frame [']']

def colored (span : Span) : Nat → List Char → List Char
  | _, [] => []
  | offset, c :: rest =>
      shade (if span.start ≤ offset ∧ offset < span.stop then .mark else .source) [c]
        ++ colored span (offset + 1) rest

def sourceLine (span : Span) (line : Line) : List Char :=
  ' ' :: shade .frame (digits line.number ++ [' ', '│']) ++ ' '
    :: colored span line.start (trimEnd line.text)

def middle (span : Span) (line : Line) : Nat := (span.start + span.stop) / 2 - line.start

def columns (span : Span) (line : Line) : Nat := span.stop - line.start + 2

def underline (span : Span) (line : Line) : List Char :=
  (List.range (columns span line)).flatMap fun column =>
    if column = middle span line then shade .mark ['┬']
    else if span.start ≤ line.start + column ∧ line.start + column < span.stop then
      shade .mark ['─']
    else [' ']

def arrow (span : Span) (line : Line) : List Char :=
  blanks (middle span line) ++ shade .mark ['╰']
    ++ (List.replicate (columns span line - middle span line - 1) (shade .mark ['─'])).flatten

/-- The lines of a report. The layout is that of spans within one line and of characters one column
wide, without tabs. A text with others is laid out here as if it had none. -/
def lines (diagnostic : Diagnostic) (source : List Char) (filename : String) : List (List Char) :=
  let span := diagnostic.span
  let last := span.stop - 1
  if source.length < span.start ∨ source.length < last then [title]
  else
    let line := lineAt span.start source
    let width := (digits line.number).length
    let shown :=
      if last = source.length then [margin width]
      else [
        sourceLine span line,
        margin width ++ underline span line,
        margin width ++ arrow span line ++ ' ' :: diagnostic.fault.message.toList]
    [title,
      blanks (width + 2) ++ heading filename line span.start,
      blanks (width + 2) ++ shade .frame ['│']]
    ++ shown ++ [shade .frame (List.replicate (width + 2) '─' ++ ['╯'])]

end Report

def Diagnostic.report (diagnostic : Diagnostic) (source filename : String) : String :=
  String.ofList <|
    (Report.lines diagnostic source.toList filename).flatMap fun line => line ++ ['\n']

end Stencil
