import Stencil.Toml.Moment
import Stencil.Toml.Number
import Stencil.Toml.Text
import Stencil.Toml.Value

/-!
Reading a TOML document: its keys, its values, and its lines. Lists and tables inside one another go
less than `nestingLimit` deep, and a dotted key has fewer parts than that.
-/

namespace Stencil.Toml

def nestingLimit : Nat := 80

def isBareKeyChar (c : Char) : Bool := c.isAlphanum || c == '_' || c == '-'

def keyPart (text : List Char) : Option (List Char × List Char) :=
  match text.takeWhile isBareKeyChar with
  | [] => quotedLine text
  | bare => some (bare, text.drop bare.length)

/-- The parts of a key. Each takes at least one character, so `fuel` is the length of the text. -/
def keyParts (fuel : Nat) (text : List Char) : Option (List String × List Char) :=
  match fuel with
  | 0 => none
  | fuel + 1 => do
      let (part, rest) ← keyPart (skipSpaces text)
      match skipSpaces rest with
      | '.' :: rest => do
          let (more, rest) ← keyParts fuel rest
          return (String.ofList part :: more, rest)
      | rest => return ([String.ofList part], rest)

def key? (text : List Char) : Option (Key × List Char) := do
  let (parts, rest) ← keyParts text.length text
  if nestingLimit ≤ parts.length then none
  else return (⟨parts.dropLast, ← parts.getLast?⟩, rest)

/-- The items of a list after its bracket. A comma may stand after the last one. -/
def listItems (item : Reader Value) : Nat → List Char → Option (List Value × List Char)
  | 0, _ => none
  | fuel + 1, text =>
      match skipLines false text with
      | ']' :: rest => some ([], rest)
      | text => do
          let (first, rest) ← item text
          match skipLines false rest with
          | ',' :: rest => do
              let (more, rest) ← listItems item fuel rest
              return (first :: more, rest)
          | ']' :: rest => return ([first], rest)
          | _ => none

def tableEntries (item : Reader Value) : Nat → List Char → Option (List (Key × Value) × List Char)
  | 0, _ => none
  | fuel + 1, text => do
      let (key, rest) ← key? text
      let (value, rest) ← item (skipSpaces (← expect ['='] rest))
      match skipSpaces rest with
      | ',' :: rest => do
          let (more, rest) ← tableEntries item fuel rest
          return ((key, value) :: more, rest)
      | '}' :: rest => return ([(key, value)], rest)
      | _ => none

def closedTable (item : Reader Value) (text : List Char) : Option (Value × List Char) :=
  match skipSpaces text with
  | '}' :: rest => some (.table .closed [], rest)
  | text => do
      let (pairs, rest) ← tableEntries item text.length text
      let entries ← pairs.foldlM (fun (entries : Entries) (key, value) => key.put value entries) []
      return (.table .closed entries, rest)

def boolean? (text : List Char) : Option (Bool × List Char) :=
  match expect "true".toList text, expect "false".toList text with
  | some rest, _ => some (true, rest)
  | _, some rest => some (false, rest)
  | none, none => none

def simpleValue (text : List Char) : Option (Value × List Char) :=
  (quotedText text).map (fun (value, rest) => (.text (String.ofList value), rest))
  <|> (skipMoment text).map (fun rest =>
    (.moment (String.ofList (text.take (text.length - rest.length))), rest))
  <|> (float? text).map (fun (x, rest) => (.float x, rest))
  <|> (special? text).map (fun (x, rest) => (.float x, rest))
  <|> (integer? text).map (fun (n, rest) => (.integer n, rest))
  <|> (boolean? text).map (fun (b, rest) => (.boolean b, rest))

/-- A value with at most `depth` lists and tables inside one another. -/
def value? (depth : Nat) (text : List Char) : Option (Value × List Char) :=
  match depth, text with
  | 0, '[' :: _ => none
  | 0, '{' :: _ => none
  | depth + 1, '[' :: rest =>
      (listItems (value? depth) text.length rest).map fun (items, rest) => (.list items, rest)
  | depth + 1, '{' :: rest => closedTable (value? depth) rest
  | _, _ => simpleValue text

def statement? : Reader Statement
  | '[' :: '[' :: rest => do
      let (key, rest) ← key? rest
      return (.listHeader key, ← lineEnd? (← expect [']', ']'] rest))
  | '[' :: rest => do
      let (key, rest) ← key? rest
      return (.header key, ← lineEnd? (← expect [']'] rest))
  | text => do
      let (key, rest) ← key? text
      let (value, rest) ← value? (nestingLimit - 1) (skipSpaces (← expect ['='] rest))
      return (.entry key value, ← lineEnd? rest)

/-- The statements of a document. Each line takes at least one character, so `fuel` is one more than
the length of the text. -/
def statements? (fuel : Nat) (text : List Char) : Option (List Statement) :=
  match fuel with
  | 0 => none
  | fuel + 1 =>
      match skipSpaces text with
      | [] => some []
      | text =>
          match lineEnd? text with
          | some rest => statements? fuel rest
          | none => do
              let (statement, rest) ← statement? text
              return statement :: (← statements? fuel rest)

def read (document : String) : Option Entries :=
  let text :=
    match document.toList with
    | '\ufeff' :: rest => rest
    | text => text
  (statements? (text.length + 1) text).bind assemble

end Stencil.Toml
