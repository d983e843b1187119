import Stencil.Value.Emission

/-!
The symbols that numbers are written with, and values. A value is known by what it writes. It is
given the format of the hole it fills, if there is one, and the symbols.
-/

namespace Stencil

structure Symbols where
  /-- Between the integral digits and the fraction. -/
  point : String
  /-- Between groups of three integral digits. -/
  separator : String
  /-- In front of a negative number. -/
  minus : String
  deriving DecidableEq

def Symbols.invariant : Symbols := ⟨".", ",", "-"⟩

structure Culture where
  name : String
  symbols : Symbols
  deriving DecidableEq

def Culture.invariant : Culture := ⟨"invariant", .invariant⟩

inductive NumberKind
  | integer
  | float
  deriving DecidableEq

def NumberKind.name : NumberKind → String
  | integer => "integer"
  | float => "float"

inductive FormatError
  | unsupported (format : String) (kind : NumberKind)
  | refused
  | custom (message : String)
  deriving DecidableEq

def FormatError.message : FormatError → String
  | unsupported format kind =>
      "unsupported format specifier `" ++ format ++ "` for " ++ kind.name ++ " value"
  | refused => "failed to write formatted value"
  | custom message => message

abbrev Value := Option String → Symbols → Emission FormatError

def Emission.collect (emission : Emission FormatError) : Except FormatError String :=
  let (sink, result) := emission.run .refused .unlimited
  result.map fun _ => sink.written

end Stencil
