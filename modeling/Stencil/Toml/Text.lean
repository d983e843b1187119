import Stencil.Toml.Lexis

namespace Stencil.Toml

def singleQuote : Char := '\x27'

def numberedChar (n : Nat) (text : List Char) : Option (Char × List Char) :=
  match fixedDigits 16 n text with
  | none => none
  | some (number, rest) => if number.isValidChar then some (Char.ofNat number, rest) else none

theorem length_numberedChar {n : Nat} {text rest : List Char} {c : Char}
    (read : numberedChar n text = some (c, rest)) : rest.length ≤ text.length := by
  unfold numberedChar at read
  split at read
  · contradiction
  · next digits =>
      split at read
      · obtain ⟨-, rfl⟩ := by simpa using read
        exact length_fixedDigits digits
      · contradiction

def escape? : Reader Char
  | 'b' :: rest => some ('\x08', rest)
  | 't' :: rest => some ('\t', rest)
  | 'n' :: rest => some ('\n', rest)
  | 'f' :: rest => some ('\x0c', rest)
  | 'r' :: rest => some ('\r', rest)
  | '"' :: rest => some ('"', rest)
  | '\\' :: rest => some ('\\', rest)
  | 'u' :: rest => numberedChar 4 rest
  | 'U' :: rest => numberedChar 8 rest
  | _ => none

theorem length_escape? {text rest : List Char} {c : Char}
    (read : escape? text = some (c, rest)) : rest.length < text.length := by
  unfold escape? at read
  split at read
  case h_8 | h_9 =>
    have := length_numberedChar read
    simp only [List.length_cons]
    omega
  case h_10 => contradiction
  all_goals
    obtain ⟨-, rfl⟩ := by simpa using read
    simp

def prepend (c : Char) (read : Option (List Char × List Char)) :
    Option (List Char × List Char) :=
  read.map fun (text, rest) => (c :: text, rest)

def lineString : Reader (List Char)
  | [] => none
  | '"' :: rest => some ([], rest)
  | '\\' :: rest =>
      match read : escape? rest with
      | none => none
      | some (c, after) =>
          have := length_escape? read
          prepend c (lineString after)
  | c :: rest => if isVisible c then prepend c (lineString rest) else none
  termination_by text => text.length

def rawLineString : Reader (List Char)
  | [] => none
  | c :: rest =>
      if c = singleQuote then some ([], rest)
      else if isVisible c then prepend c (rawLineString rest)
      else none

/-- Three quotes end a block string; one or two more before them belong to the text. -/
def blockEnd? (quote : Char) (text : List Char) : Option (List Char × List Char) :=
  let quotes := (text.takeWhile (· == quote)).take 5
  if 3 ≤ quotes.length then some (quotes.drop 3, text.drop quotes.length) else none

def continues (text : List Char) : Bool := (newline? (skipSpaces text)).isSome

/-- The rest of a block string. After a continued line, `skipping` passes over all blank space. -/
def blockString (skipping : Bool) : Reader (List Char)
  | [] => none
  | '\r' :: '\n' :: rest =>
      if skipping then blockString true rest else prepend '\n' (blockString false rest)
  | c :: rest =>
      if skipping && (isSpace c || c == '\n') then blockString true rest
      else if c = '\n' then prepend '\n' (blockString false rest)
      else if c = '"' then
        match blockEnd? '"' (c :: rest) with
        | some ended => some ended
        | none => prepend c (blockString false rest)
      else if c = '\\' then
        if continues rest then blockString true rest
        else
          match read : escape? rest with
          | none => none
          | some (escaped, after) =>
              have := length_escape? read
              prepend escaped (blockString false after)
      else if isVisible c then prepend c (blockString false rest)
      else none
  termination_by text => text.length

def rawBlockString : Reader (List Char)
  | [] => none
  | '\r' :: '\n' :: rest => prepend '\n' (rawBlockString rest)
  | c :: rest =>
      if c = singleQuote then
        match blockEnd? singleQuote (c :: rest) with
        | some ended => some ended
        | none => prepend c (rawBlockString rest)
      else if c = '\n' || isVisible c then prepend c (rawBlockString rest)
      else none

def skipFirstBreak (text : List Char) : List Char := (newline? text).getD text

def quotedLine : Reader (List Char)
  | [] => none
  | c :: rest =>
      if c = '"' then lineString rest
      else if c = singleQuote then rawLineString rest
      else none

def blockQuotes (quote : Char) : List Char := List.replicate 3 quote

def quotedText (text : List Char) : Option (List Char × List Char) :=
  match expect (blockQuotes '"') text, expect (blockQuotes singleQuote) text with
  | some rest, _ => blockString false (skipFirstBreak rest)
  | _, some rest => rawBlockString (skipFirstBreak rest)
  | none, none => quotedLine text

end Stencil.Toml
