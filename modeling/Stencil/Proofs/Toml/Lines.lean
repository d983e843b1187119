import Stencil.Proofs.Toml.Values

/-!
A document of section heads and entries is read line by line.
-/

namespace Stencil.Toml

theorem value?_of_simple (depth : Nat) {first : Char} (list : first ≠ '[') (table : first ≠ '{')
    (rest : List Char) : value? depth (first :: rest) = simpleValue (first :: rest) := by
  unfold value?
  split
  case h_1 same | h_3 same => exact absurd (List.cons.inj same).1 list
  case h_2 same | h_4 same => exact absurd (List.cons.inj same).1 table
  case h_5 => rfl

/-- A name that needs no quotes. -/
def IsBare (name : List Char) : Prop := name ≠ [] ∧ name.all isBareKeyChar

instance : DecidablePred IsBare := fun name =>
  inferInstanceAs (Decidable (name ≠ [] ∧ name.all isBareKeyChar))

theorem IsBare.exists_cons {name : List Char} (bare : IsBare name) :
    ∃ first rest, name = first :: rest ∧ isBareKeyChar first := by
  rcases bare with ⟨present, bare⟩
  rcases List.exists_cons_of_ne_nil present with ⟨first, rest, rfl⟩
  exact ⟨first, rest, rfl, List.all_eq_true.mp bare first List.mem_cons_self⟩

theorem IsBare.append_ne {name rest more : List Char} (bare : IsBare name) :
    name ++ rest ≠ '[' :: more := by
  rcases bare.exists_cons with ⟨first, others, rfl, key⟩
  rintro ⟨⟩
  cases key

/-- What a line that is neither blank nor a comment starts with. -/
def IsStart (c : Char) : Prop := c = '[' ∨ isBareKeyChar c

instance : DecidablePred IsStart := fun c => inferInstanceAs (Decidable (c = '[' ∨ isBareKeyChar c))

section

variable {c : Char} (start : IsStart c) (rest : List Char)
include start

theorem IsStart.ne {d : Char} (other : ¬ IsStart d) : c ≠ d := by
  rintro rfl
  exact other start

theorem skipSpaces_start : skipSpaces (c :: rest) = c :: rest := by
  apply List.dropWhile_cons_of_neg
  intro space
  rcases Bool.or_eq_true_iff.mp space with blank | tab
  · exact start.ne (by decide) (eq_of_beq blank)
  · exact start.ne (by decide) (eq_of_beq tab)

theorem lineEnd?_start : lineEnd? (c :: rest) = none := by
  have comment : c ≠ '#' := start.ne (by decide)
  have line : c ≠ '\n' := start.ne (by decide)
  have ending : c ≠ '\r' := start.ne (by decide)
  have unbroken : newline? (c :: rest) = none := by
    unfold newline?
    split
    case h_1 same => exact absurd (List.cons.inj same).1 line
    case h_2 same => exact absurd (List.cons.inj same).1 ending
    case h_3 => rfl
  rw [lineEnd?, skipSpaces_start start]
  split
  · next same => exact absurd (List.cons.inj same).1 comment
  · exact unbroken

end

theorem key?_bare {name : List Char} (bare : IsBare name) {c d : Char} {rest more : List Char}
    (stops : ¬ isBareKeyChar c) (behind : skipSpaces (c :: rest) = d :: more) (single : d ≠ '.') :
    key? (name ++ c :: rest) = some (⟨[], .ofList name⟩, d :: more) := by
  rcases bare.exists_cons with ⟨first, others, rfl, key⟩
  have taken : (first :: others ++ c :: rest).takeWhile isBareKeyChar = first :: others := by
    rw [List.takeWhile_append_of_pos (List.all_eq_true.mp bare.2),
      List.takeWhile_cons_of_neg stops, List.append_nil]
  have part : keyPart (first :: others ++ c :: rest) = some (first :: others, c :: rest) := by
    rw [keyPart, taken]
    dsimp only
    rw [List.drop_left' rfl]
  have start : skipSpaces (first :: others ++ c :: rest) = first :: others ++ c :: rest :=
    skipSpaces_start (.inr key) _
  have parts (fuel : Nat) : keyParts (fuel + 1) (first :: others ++ c :: rest) =
      some ([.ofList (first :: others)], d :: more) := by
    rw [keyParts, start, part]
    dsimp only [Option.bind_eq_bind, Option.bind_some]
    rw [behind]
    split
    · next same => exact absurd (List.cons.inj same).1 single
    · rfl
  rw [key?, List.cons_append, List.length_cons, ← List.cons_append, parts]
  rfl

inductive Setting
  | text (value : String)
  | count (n : Nat)

namespace Setting

def value : Setting → Value
  | text value => .text value
  | count n => .integer n

def chars : Setting → List Char
  | text value => spelledText value.toList
  | count n => digits n

/-- A count is at most the last signed word. -/
def Fits : Setting → Prop
  | text _ => True
  | count n => n ≤ 9223372036854775807

variable (setting : Setting)

theorem exists_first :
    ∃ c more, setting.chars = c :: more ∧ ¬ isSpace c ∧ c ≠ '[' ∧ c ≠ '{' := by
  cases setting with
  | text value => exact ⟨'"', _, rfl, by decide, by decide, by decide⟩
  | count n =>
      rcases exists_cons_of_isDigits (isDigits_digits n) with ⟨first, more, split, digit⟩
      have apart {c : Char} (other : ¬ c.isDigit) : first ≠ c := by
        rintro rfl
        exact other digit
      have space : first ≠ ' ' := apart (by decide)
      have tab : first ≠ '\t' := apart (by decide)
      exact ⟨first, more, split, by simp [isSpace, space, tab], apart (by decide),
        apart (by decide)⟩

theorem skipSpaces_chars (rest : List Char) :
    skipSpaces (' ' :: (setting.chars ++ rest)) = setting.chars ++ rest := by
  rcases setting.exists_first with ⟨c, more, split, visible, -, -⟩
  rw [split, List.cons_append, skipSpaces, List.dropWhile_cons_of_pos rfl,
    List.dropWhile_cons_of_neg visible]

theorem value?_chars {setting : Setting} (fits : setting.Fits) (depth : Nat) (rest : List Char) :
    value? depth (setting.chars ++ '\n' :: rest) = some (setting.value, '\n' :: rest) := by
  have simple : value? depth (setting.chars ++ '\n' :: rest) =
      simpleValue (setting.chars ++ '\n' :: rest) := by
    rcases setting.exists_first with ⟨c, more, split, -, list, table⟩
    rw [split]
    exact value?_of_simple depth list table _
  rw [simple]
  cases setting with
  | text value =>
      rw [chars, simpleValue_spelledText, String.ofList_toList]
      rfl
  | count n => exact simpleValue_digits fits rest

end Setting

/-- A line of a document: the head of a section, or an entry. -/
inductive Line
  | head (name : String)
  | entry (name : String) (setting : Setting)

namespace Line

def chars : Line → List Char
  | head name => '[' :: (name.toList ++ [']', '\n'])
  | entry name setting => name.toList ++ ' ' :: '=' :: ' ' :: (setting.chars ++ ['\n'])

def statement : Line → Statement
  | head name => .header ⟨[], name⟩
  | entry name setting => .entry ⟨[], name⟩ setting.value

def IsPlain : Line → Prop
  | head name => IsBare name.toList
  | entry name setting => IsBare name.toList ∧ setting.Fits

theorem IsPlain.exists_start {line : Line} (plain : line.IsPlain) :
    ∃ c more, line.chars = c :: more ∧ IsStart c := by
  cases line with
  | head name => exact ⟨'[', _, rfl, .inl rfl⟩
  | entry name setting =>
      rcases plain.1.exists_cons with ⟨c, more, split, key⟩
      exact ⟨c, _, congrArg (· ++ _) split, .inr key⟩

theorem IsPlain.statement?_eq {line : Line} (plain : line.IsPlain) (rest : List Char) :
    statement? (line.chars ++ rest) = some (line.statement, rest) := by
  cases line with
  | head name =>
      have bare : IsBare name.toList := plain
      have key : key? (name.toList ++ ']' :: '\n' :: rest) =
          some (⟨[], name⟩, ']' :: '\n' :: rest) := by
        rw [key?_bare bare (by decide) rfl (by decide), String.ofList_toList]
      have whole : (head name).chars ++ rest = '[' :: (name.toList ++ ']' :: '\n' :: rest) := by
        simp [chars]
      -- A second bracket would make it the head of a list of tables.
      rw [whole, statement?, key]
      · rfl
      · exact fun _ same => bare.append_ne same
  | entry name setting =>
      rcases plain with ⟨bare, fits⟩
      have key : key? (name.toList ++ ' ' :: '=' :: ' ' :: (setting.chars ++ '\n' :: rest)) =
          some (⟨[], name⟩, '=' :: ' ' :: (setting.chars ++ '\n' :: rest)) := by
        rw [key?_bare bare (by decide) rfl (by decide), String.ofList_toList]
      have whole : (entry name setting).chars ++ rest =
          name.toList ++ ' ' :: '=' :: ' ' :: (setting.chars ++ '\n' :: rest) := by
        simp [chars]
      have equals : expect ['='] ('=' :: ' ' :: (setting.chars ++ '\n' :: rest)) =
          some (' ' :: (setting.chars ++ '\n' :: rest)) := rfl
      rw [whole, statement?, key]
      · dsimp only [Option.bind_eq_bind, Option.bind_some]
        rw [equals, Option.bind_some, setting.skipSpaces_chars, Setting.value?_chars fits]
        rfl
      · exact fun _ same => bare.append_ne same
      · exact fun _ same => bare.append_ne same

theorem IsPlain.statements?_eq {line : Line} (plain : line.IsPlain) (fuel : Nat)
    (rest : List Char) :
    statements? (fuel + 1) (line.chars ++ rest) =
      (statements? fuel rest).map (line.statement :: ·) := by
  rcases plain.exists_start with ⟨c, more, split, start⟩
  have read := plain.statement?_eq rest
  rw [split, List.cons_append] at read ⊢
  rw [statements?, skipSpaces_start start]
  dsimp only
  rw [lineEnd?_start start, read]
  dsimp only [Option.bind_eq_bind, Option.bind_some]
  cases statements? fuel rest <;> rfl

end Line

theorem statements?_flatMap {lines : List Line} (plain : ∀ line ∈ lines, line.IsPlain) {fuel : Nat}
    (enough : lines.length < fuel) :
    statements? fuel (lines.flatMap Line.chars) = some (lines.map Line.statement) := by
  induction lines generalizing fuel with
  | nil =>
      cases fuel with
      | zero => contradiction
      | succ fuel => rfl
  | cons line rest ih =>
      cases fuel with
      | zero => contradiction
      | succ fuel =>
          rcases List.forall_mem_cons.mp plain with ⟨first, others⟩
          rw [List.flatMap_cons, first.statements?_eq, ih others (Nat.lt_of_succ_lt_succ enough)]
          rfl

theorem length_le_flatMap {lines : List Line} (plain : ∀ line ∈ lines, line.IsPlain) :
    lines.length ≤ (lines.flatMap Line.chars).length := by
  induction lines with
  | nil => exact Nat.zero_le _
  | cons line rest ih =>
      rcases List.forall_mem_cons.mp plain with ⟨first, others⟩
      rcases first.exists_start with ⟨c, more, split, -⟩
      have behind := ih others
      rw [List.flatMap_cons, split, List.length_append, List.length_cons, List.length_cons]
      omega

theorem read_flatMap {lines : List Line} (plain : ∀ line ∈ lines, line.IsPlain) :
    read (.ofList (lines.flatMap Line.chars)) = assemble (lines.map Line.statement) := by
  have enough := Nat.lt_succ_of_le (length_le_flatMap plain)
  have unmarked : ∀ rest, lines.flatMap Line.chars ≠ '\ufeff' :: rest := by
    intro rest same
    cases lines with
    | nil => cases same
    | cons line others =>
        rcases (plain line List.mem_cons_self).exists_start with ⟨c, more, split, start⟩
        rw [List.flatMap_cons, split] at same
        exact start.ne (by decide) (List.cons.inj same).1
  rw [read, String.toList_ofList]
  split
  · next same => exact absurd same (unmarked _)
  · rw [statements?_flatMap plain enough]
    rfl

end Stencil.Toml
