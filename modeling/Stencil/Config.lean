import Stencil.Cache.Basic
import Stencil.Toml.Document
import Stencil.Value.Format

/-!
A configuration: the culture that numbers are written in, and the limits of the template cache. It
is read from a TOML document, where every entry may be missing and unknown ones do not count.
-/

namespace Stencil

structure Config where
  culture : Culture
  limits : Limits
  deriving DecidableEq

def Config.usual : Config := ⟨.invariant, .usual⟩

inductive ConfigError
  /-- There is no such file, or it holds no text. -/
  | unreadable
  | malformed
  deriving DecidableEq

/-- The field of a section, by its place and name. -/
abbrev Fields := Nat → String → Option Toml.Value

/-- A section is a table, or a list of its fields in order. A moment stands for an empty one. -/
def sectionFields : Toml.Value → Option Fields
  | .table _ entries => some fun _ name => entries.lookup name
  | .list items => some fun place _ => items[place]?
  | .tables latest earlier =>
      some fun place _ => ((latest :: earlier).reverse.map (.table .declared))[place]?
  | .moment _ => some fun _ _ => none
  | _ => none

def fieldsOf (root : Toml.Entries) (name : String) : Option Fields :=
  match root.lookup name with
  | none => some fun _ _ => none
  | some value => sectionFields value

def textField (fields : Fields) (place : Nat) (name usual : String) : Option String :=
  match fields place name with
  | none => some usual
  | some (.text value) => some value
  | some _ => none

def countField (fields : Fields) (place : Nat) (name : String) (usual : Nat) : Option Nat :=
  match fields place name with
  | none => some usual
  | some (.integer value) => if 0 ≤ value then some value.toNat else none
  | some _ => none

def Culture.ofFields (fields : Fields) : Option Culture := do
  let usual := Culture.invariant
  let name ← textField fields 0 "name" usual.name
  let point ← textField fields 1 "decimal_separator" usual.symbols.point
  let separator ← textField fields 2 "group_separator" usual.symbols.separator
  let minus ← textField fields 3 "negative_sign" usual.symbols.minus
  return ⟨name, point, separator, minus⟩

def Limits.ofFields (fields : Fields) : Option Limits := do
  let usual := Limits.usual
  let maxEntries ← countField fields 0 "max_entries" usual.maxEntries
  let maxTemplateLength ← countField fields 1 "max_template_length" usual.maxTemplateLength
  return ⟨maxEntries, maxTemplateLength⟩

namespace Config

def ofEntries (root : Toml.Entries) : Option Config := do
  let culture ← Culture.ofFields (← fieldsOf root "culture")
  let limits ← Limits.ofFields (← fieldsOf root "cache")
  return ⟨culture, limits⟩

def read (document : String) : Except ConfigError Config :=
  match (Toml.read document).bind ofEntries with
  | some config => .ok config
  | none => .error .malformed

def ofFile (file : Option ByteArray) : Except ConfigError Config :=
  match file.bind String.fromUTF8? with
  | some document => read document
  | none => .error .unreadable

end Config

end Stencil
