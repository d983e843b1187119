import Stencil.Config
import Stencil.Proofs.Toml.Lines

/-!
Any configuration can be had from a file: its culture and its limits, written as a document of two
sections, are read back.
-/

namespace Stencil

theorem fromUTF8?_eq_some_iff (input : ByteArray) (text : String) :
    String.fromUTF8? input = some text ↔ input = text.toUTF8 := by
  unfold String.fromUTF8?
  split
  · next valid =>
      rw [Option.some_inj, ← String.toByteArray_inj]
      exact Iff.rfl
  · next invalid =>
      constructor
      · nofun
      · rintro rfl
        exact absurd text.isValidUTF8 invalid

namespace Config

theorem ofFile_eq_ok_iff (file : Option ByteArray) (config : Config) :
    ofFile file = .ok config ↔
      ∃ document : String, file = some document.toUTF8 ∧ read document = .ok config := by
  rw [ofFile]
  constructor
  · intro loaded
    split at loaded
    · next document decoded =>
        rcases Option.bind_eq_some_iff.mp decoded with ⟨bytes, present, decoded⟩
        rw [present, (fromUTF8?_eq_some_iff bytes document).mp decoded]
        exact ⟨document, rfl, loaded⟩
    · cases loaded
  · rintro ⟨document, rfl, loaded⟩
    rw [Option.bind_some, (fromUTF8?_eq_some_iff _ document).mpr rfl]
    exact loaded

open Toml.Line (head entry)

def lines (config : Config) : List Toml.Line :=
  let ⟨name, point, separator, minus⟩ := config.culture
  [head "culture", entry "name" (.text name), entry "decimal_separator" (.text point),
    entry "group_separator" (.text separator), entry "negative_sign" (.text minus),
    head "cache", entry "max_entries" (.count config.limits.maxEntries),
    entry "max_template_length" (.count config.limits.maxTemplateLength)]

def document (config : Config) : String := .ofList (config.lines.flatMap Toml.Line.chars)

/-- The limits are signed words. -/
def Fits (config : Config) : Prop :=
  config.limits.maxEntries ≤ 9223372036854775807 ∧
    config.limits.maxTemplateLength ≤ 9223372036854775807

theorem read_document {config : Config} (fits : config.Fits) :
    read config.document = .ok config := by
  have plain : ∀ line ∈ config.lines, line.IsPlain := by
    simp only [lines, List.forall_mem_cons, Toml.Line.IsPlain, Toml.Setting.Fits, fits.1, fits.2,
      List.not_mem_nil, false_implies, implies_true, and_true]
    decide
  have told : (Toml.assemble (config.lines.map Toml.Line.statement)).bind ofEntries =
      some config := rfl
  rw [read, document, Toml.read_flatMap plain, told]

theorem ofFile_document {config : Config} (fits : config.Fits) :
    ofFile (some config.document.toUTF8) = .ok config :=
  (ofFile_eq_ok_iff _ config).mpr ⟨config.document, rfl, read_document fits⟩

end Config

end Stencil
