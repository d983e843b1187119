import Stencil.Proofs.Numeral.Scientific
import Stencil.Value.Scalar

namespace Stencil

theorem ofInt_eq_iff {n : Int} {i : Int64} :
    (Int64.minValue.toInt ≤ n ∧ n ≤ Int64.maxValue.toInt) ∧ Int64.ofInt n = i ↔ n = i.toInt := by
  constructor
  · intro fits
    rcases fits with ⟨⟨low, high⟩, rfl⟩
    have below : n < 2 ^ 63 := Int.lt_of_le_of_lt high (by decide)
    exact (Int64.toInt_ofInt_of_le low below).symm
  · intro same
    subst same
    exact ⟨⟨i.minValue_le_toInt, i.toInt_le⟩, Int64.ofInt_toInt i⟩

namespace Scalar

def words : List String := ["null", "true", "false"]

/-- The narrowest scalar that a text stands for. -/
inductive Suits (text : String) : Scalar → Prop
  | null (word : text = "null") : Suits text null
  | bool (value : Bool) (word : text = if value then "true" else "false") : Suits text (bool value)
  | int (value : Int64) (whole : IsWhole text.toList value.toInt) : Suits text (int value)
  | float (value : Double) (no_integer : ∀ i : Int64, ¬IsWhole text.toList i.toInt)
      (denoted : value.IsDenotedBy text.toList) : Suits text (float value)
  | str (no_word : text ∉ words) (no_integer : ∀ i : Int64, ¬IsWhole text.toList i.toInt)
      (no_double : ∀ x : Double, ¬x.IsDenotedBy text.toList) : Suits text (str text)

section

variable {text : List Char}

theorem int?_eq_some_iff {i : Int64} : int? text = some i ↔ IsWhole text i.toInt := by
  simp only [int?, Option.bind_eq_bind, Option.bind_eq_some_iff, Option.ite_none_right_eq_some,
    Option.some.injEq, ofInt_eq_iff, exists_eq_right, readInteger_eq_some_iff]

theorem float?_eq_some_iff {x : Double} : float? text = some x ↔ x.IsDenotedBy text := by
  simp only [float?, Option.bind_eq_bind, Option.bind_eq_some_iff, Option.ite_none_right_eq_some,
    Option.some.injEq, Scientific.toDouble_eq_iff, Scientific.read_eq_some_iff,
    Double.IsDenotedBy]

theorem int?_eq_none_iff : int? text = none ↔ ∀ i : Int64, ¬IsWhole text i.toInt := by
  simp only [Option.eq_none_iff_forall_ne_some, ne_eq, int?_eq_some_iff]

theorem float?_eq_none_iff : float? text = none ↔ ∀ x : Double, ¬x.IsDenotedBy text := by
  simp only [Option.eq_none_iff_forall_ne_some, ne_eq, float?_eq_some_iff]

end

theorem no_number_of_mem {word : String} (known : word ∈ words) :
    int? word.toList = none ∧ float? word.toList = none := by
  have all : words.all fun word =>
      (int? word.toList).isNone && (float? word.toList).isNone := by decide
  simpa using List.all_eq_true.mp all word known

section

variable {text : String}

/-- What is no word is tried as a whole number first and then as a decimal number. -/
theorem infer_of_not_mem (no_word : text ∉ words) : infer text =
    ((int? text.toList).map int).getD (((float? text.toList).map float).getD (str text)) := by
  have other {word : String} (known : word ∈ words) : text ≠ word := fun same =>
    no_word (same ▸ known)
  rw [infer, if_neg (other (by decide)), if_neg (other (by decide)), if_neg (other (by decide))]
  cases int? text.toList with
  | some i => rfl
  | none => cases float? text.toList <;> rfl

theorem infer_of_isWhole {i : Int64} (whole : IsWhole text.toList i.toInt) :
    infer text = int i := by
  rw [← int?_eq_some_iff] at whole
  have no_word : text ∉ words := fun known => by
    rw [(no_number_of_mem known).1] at whole
    cases whole
  rw [infer_of_not_mem no_word, whole]
  rfl

theorem infer_of_isDenotedBy {x : Double} (no_integer : ∀ i : Int64, ¬IsWhole text.toList i.toInt)
    (denoted : x.IsDenotedBy text.toList) : infer text = float x := by
  rw [← int?_eq_none_iff] at no_integer
  rw [← float?_eq_some_iff] at denoted
  have no_word : text ∉ words := fun known => by
    rw [(no_number_of_mem known).2] at denoted
    cases denoted
  rw [infer_of_not_mem no_word, no_integer, denoted]
  rfl

theorem Suits.infer_eq {scalar : Scalar} (suits : Suits text scalar) : infer text = scalar := by
  cases suits with
  | null word => rw [word]; rfl
  | bool value word => cases value <;> rw [word] <;> rfl
  | int value whole => exact infer_of_isWhole whole
  | float value no_integer denoted => exact infer_of_isDenotedBy no_integer denoted
  | str no_word no_integer no_double =>
      rw [infer_of_not_mem no_word, int?_eq_none_iff.mpr no_integer,
        float?_eq_none_iff.mpr no_double]
      rfl

theorem suits_infer (text : String) : Suits text (infer text) := by
  by_cases known : text ∈ words
  · have word : text = "null" ∨ text = "true" ∨ text = "false" := by simpa [words] using known
    rcases word with rfl | rfl | rfl
    · exact .null rfl
    · exact .bool true rfl
    · exact .bool false rfl
  · rw [infer_of_not_mem known]
    cases integer : int? text.toList with
    | some i => exact .int i (int?_eq_some_iff.mp integer)
    | none =>
        rw [int?_eq_none_iff] at integer
        cases double : float? text.toList with
        | some x => exact .float x integer (float?_eq_some_iff.mp double)
        | none => exact .str known integer (float?_eq_none_iff.mp double)

end

/-- What is inferred from a text is the one scalar that suits it. It is a double just if the text is
no integer and spells a decimal number that is less than half a step beyond the greatest double. -/
theorem infer_classifies (text : String) :
    (∀ scalar, infer text = scalar ↔ Suits text scalar) ∧
      ((∃ x, infer text = float x) ↔ (∀ i : Int64, ¬IsWhole text.toList i.toInt) ∧
        ∃ number : Scientific, number.Spells text.toList ∧
          |number.value| < 2 ^ 1024 - 2 ^ 970) := by
  have classifies (scalar : Scalar) : infer text = scalar ↔ Suits text scalar :=
    ⟨fun inferred => inferred ▸ suits_infer text, Suits.infer_eq⟩
  refine ⟨classifies, ?_⟩
  constructor
  · intro inferred
    rcases inferred with ⟨x, inferred⟩
    rcases (classifies _).mp inferred with - | - | - | ⟨_, no_integer, number, spelled, nearest, -⟩
    exact ⟨no_integer, number, spelled, nearest.inside⟩
  · intro denoted
    rcases denoted with ⟨no_integer, number, spelled, inside⟩
    have finite : number.toDouble.isFinite := by
      rw [Scientific.isFinite_toDouble_iff, Scientific.magnitude_lt_iff]
      exact inside
    have nearest := Scientific.toDouble_eq_iff.mp ⟨finite, rfl⟩
    exact ⟨_, infer_of_isDenotedBy no_integer ⟨number, spelled, nearest⟩⟩

example : infer "+0009223372036854775807" = int 9223372036854775807 := by decide +kernel

example : infer "-9223372036854775809" = float ⟨0xC3E0000000000000⟩ := by decide +kernel

example : infer "-.1e-400" = float ⟨0x8000000000000000⟩ := by decide +kernel

example : infer "1e309" = str "1e309" := by decide +kernel

end Scalar

end Stencil
