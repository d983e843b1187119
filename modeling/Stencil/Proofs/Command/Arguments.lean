import Mathlib.Data.List.Forall2
import Mathlib.Data.List.Induction
import Stencil.Command.Words

namespace Stencil.Command

namespace Arguments

variable (arguments : Arguments) (rest : List (List Char))

theorem take_free {text : List Char} (free : isOption text = false) :
    arguments.take none false (text :: rest) =
      arguments.setTemplate text >>= fun next => next.take none false rest := by
  rw [take.eq_def]
  simp [free]

theorem take_plain (texts : List (List Char)) :
    arguments.take none true texts = (texts.map Word.template).foldlM add arguments := by
  induction texts generalizing arguments with
  | nil => rfl
  | cons text rest ih =>
      rw [take.eq_def, List.map_cons, List.foldlM_cons]
      simp [ih, add]

theorem take_dashes :
    arguments.take none false (['-', '-'] :: rest) = arguments.take none true rest := by
  rw [take.eq_def]
  rfl

theorem take_letters {letters : List Char} (nonempty : letters ≠ [])
    (other : letters.head? ≠ some '-') :
    arguments.take none false (('-' :: letters) :: rest) =
      arguments.takeLetters letters >>= fun (next, waiting) => next.take waiting false rest := by
  cases letters with
  | nil => contradiction
  | cons letter letters =>
      have other : letter ≠ '-' := by simpa using other
      rw [take.eq_def]
      simp [isOption, other]

theorem take_name {name : List Char} (nonempty : name ≠ []) :
    arguments.take none false (('-' :: '-' :: name) :: rest) =
      arguments.takeName name >>= fun (next, waiting) => next.take waiting false rest := by
  rw [take.eq_def]
  simp [isOption]

theorem take_waiting (setting : Setting) {value : List Char} (free : isOption value = false) :
    arguments.take (some setting) false (value :: rest) =
      arguments.assign value setting >>= fun next => next.take none false rest := by
  rw [take.eq_def]
  simp [free]

theorem takeLetters_group {letters : List Char} {words : List Word} {waiting : Option Setting}
    (group : Group letters words waiting) :
    arguments.takeLetters letters =
      words.foldlM add arguments >>= fun next => pure (next, waiting) := by
  induction group generalizing arguments with
  | nil => rfl
  | switch known group ih =>
      rw [takeLetters, known, List.foldlM_cons]
      simp [ih, add]
  | apart known =>
      rw [takeLetters, known]
      rfl
  | equated known value =>
      rw [takeLetters.eq_def]
      simp [known, add]
  | @joined letter setting value known nonempty other =>
      cases value with
      | nil => contradiction
      | cons c value =>
          have other : c ≠ '=' := by simpa using other
          rw [takeLetters.eq_def]
          simp [known, other, add]

theorem head_group {letters : List Char} {words : List Word} {waiting : Option Setting}
    (group : Group letters words waiting) : letters.head? ≠ some '-' := by
  intro dash
  cases group with
  | nil => cases dash
  | switch known | apart known | equated known | joined known =>
      obtain rfl := Option.some.inj dash
      cases known

section

variable {name : List Char}

theorem plain_of_ofName {option : Opt} (known : Opt.ofName name = some option) :
    name ≠ [] ∧ '=' ∉ name := by
  have named (text : String) (same : String.ofList name = text) : name = text.toList := by
    rw [← same, String.toList_ofList]
  unfold Opt.ofName at known
  split at known
  · next same => rw [named _ same]; decide
  · next same => rw [named _ same]; decide
  · next same => rw [named _ same]; decide
  · next same => rw [named _ same]; decide
  · next same => rw [named _ same]; decide
  · cases known

theorem takeName_switch {switch : Switch} (known : Opt.ofName name = some (.switch switch)) :
    arguments.takeName name = arguments.turnOn switch >>= fun next => pure (next, none) := by
  rw [takeName, cutAt_of_not_mem (plain_of_ofName known).2]
  simp [known]

variable {setting : Setting} (known : Opt.ofName name = some (.setting setting))

include known

theorem takeName_equated (value : List Char) :
    arguments.takeName (name ++ '=' :: value) =
      arguments.assign value setting >>= fun next => pure (next, none) := by
  rw [takeName, cutAt_append (plain_of_ofName known).2]
  simp [known]

theorem takeName_apart : arguments.takeName name = pure (arguments, some setting) := by
  rw [takeName, cutAt_of_not_mem (plain_of_ofName known).2]
  dsimp only
  rw [known]
  rfl

end

theorem take_opening {text : List Char} {words : List Word} {waiting : Option Setting}
    (opening : Opening text words waiting) :
    arguments.take none false (text :: rest) =
      words.foldlM add arguments >>= fun next => next.take waiting false rest := by
  cases opening with
  | letters nonempty group =>
      simp [take_letters _ _ nonempty (head_group group), takeLetters_group _ group]
  | switch known =>
      simp [take_name _ _ (plain_of_ofName known).1, takeName_switch _ known, add]
  | apart known => simp [take_name _ _ (plain_of_ofName known).1, takeName_apart _ known]
  | equated known value => simp [take_name, takeName_equated _ known, add]

/-- A command line is read word by word. -/
theorem take_spelled {texts : List (List Char)} {words : List Word} (spells : Spells texts words) :
    arguments.take none false texts = words.foldlM add arguments := by
  induction spells generalizing arguments with
  | nil => rfl
  | template free spells ih => simp [take_free _ _ free, ih, add]
  | options opening spells ih => simp [take_opening _ _ opening, ih]
  | value opening free spells ih =>
      simp [take_opening _ _ opening, take_waiting _ _ _ free, ih, add]
  | plain texts => rw [take_dashes, take_plain]

theorem exists_of_bind_eq_ok {α β : Type} {first : Except Halt α} {next : α → Except Halt β}
    {result : β} (read : first >>= next = .ok result) :
    ∃ value, first = .ok value ∧ next value = .ok result := by
  cases first with
  | error halt => cases read
  | ok value => exact ⟨value, rfl, read⟩

section

variable {arguments next : Arguments} {waiting : Option Setting}

theorem exists_group {letters : List Char}
    (read : arguments.takeLetters letters = .ok (next, waiting)) :
    ∃ words, Group letters words waiting ∧ words.foldlM add arguments = .ok next := by
  induction letters generalizing arguments with
  | nil =>
      cases read
      exact ⟨[], .nil, rfl⟩
  | cons letter letters ih =>
      rw [takeLetters.eq_def] at read
      dsimp only at read
      split at read
      · cases read
      · next switch known =>
          obtain ⟨after, turned, later⟩ := exists_of_bind_eq_ok read
          obtain ⟨words, group, added⟩ := ih later
          refine ⟨.switch switch :: words, .switch known group, ?_⟩
          rw [List.foldlM_cons, add, turned]
          exact added
      · next setting known =>
          have single {value : List Char} (assigned : arguments.assign value setting = .ok next) :
              [Word.setting setting value].foldlM add arguments = .ok next := by
            simp [add, assigned]
          split at read
          · cases read
            exact ⟨[], .apart known, rfl⟩
          · next value =>
              obtain ⟨after, assigned, same⟩ := exists_of_bind_eq_ok read
              cases same
              exact ⟨_, .equated known value, single assigned⟩
          · next value nonempty other =>
              obtain ⟨after, assigned, same⟩ := exists_of_bind_eq_ok read
              cases same
              have behind : letters.head? ≠ some '=' := by
                intro equals
                obtain ⟨more, split⟩ := List.head?_eq_some_iff.mp equals
                exact other more split
              exact ⟨_, .joined known nonempty behind, single assigned⟩

theorem exists_name {name : List Char} (read : arguments.takeName name = .ok (next, waiting)) :
    ∃ words, Opening ('-' :: '-' :: name) words waiting ∧ words.foldlM add arguments = .ok next := by
  unfold takeName at read
  split at read
  next front value cut =>
  split at read
  · next switch known =>
      obtain ⟨rfl, -⟩ := cutAt_eq_none cut
      obtain ⟨after, turned, same⟩ := exists_of_bind_eq_ok read
      cases same
      exact ⟨_, .switch known, by simp [add, turned]⟩
  · next setting known =>
      obtain ⟨rfl, -⟩ := cutAt_eq_none cut
      cases read
      exact ⟨[], .apart known, rfl⟩
  · next setting value known =>
      obtain ⟨rfl, -⟩ := cutAt_eq_some cut
      obtain ⟨after, assigned, same⟩ := exists_of_bind_eq_ok read
      cases same
      exact ⟨_, .equated known value, by simp [add, assigned]⟩
  · cases read

end

section

variable {arguments result : Arguments}

theorem exists_opening {text : List Char} {rest : List (List Char)} (option : isOption text)
    (other : text ≠ ['-', '-']) (read : arguments.take none false (text :: rest) = .ok result) :
    ∃ words waiting next, Opening text words waiting ∧ words.foldlM add arguments = .ok next ∧
      next.take waiting false rest = .ok result := by
  unfold isOption at option
  split at option
  · next letter letters =>
      by_cases dash : letter = '-'
      · subst dash
        have nonempty : letters ≠ [] := by simpa using other
        rw [take_name _ _ nonempty] at read
        obtain ⟨⟨next, waiting⟩, taken, later⟩ := exists_of_bind_eq_ok read
        obtain ⟨words, opening, added⟩ := exists_name taken
        exact ⟨words, waiting, next, opening, added, later⟩
      · have head : (letter :: letters).head? ≠ some '-' := by simpa using dash
        rw [take_letters _ _ (List.cons_ne_nil _ _) head] at read
        obtain ⟨⟨next, waiting⟩, taken, later⟩ := exists_of_bind_eq_ok read
        obtain ⟨words, group, added⟩ := exists_group taken
        exact ⟨words, waiting, next, .letters (List.cons_ne_nil _ _) group, added, later⟩
  · cases option

theorem exists_value {setting : Setting} {texts : List (List Char)}
    (read : arguments.take (some setting) false texts = .ok result) :
    ∃ value rest next, texts = value :: rest ∧ isOption value = false ∧
      arguments.assign value setting = .ok next ∧ next.take none false rest = .ok result := by
  cases texts with
  | nil => cases read
  | cons value rest =>
      by_cases option : isOption value
      · rw [take.eq_def] at read
        simp [option] at read
      · have free := Bool.eq_false_iff.mpr option
        rw [take_waiting _ _ _ free] at read
        obtain ⟨next, assigned, later⟩ := exists_of_bind_eq_ok read
        exact ⟨value, rest, next, rfl, free, assigned, later⟩

theorem exists_spells {texts : List (List Char)}
    (read : arguments.take none false texts = .ok result) :
    ∃ words, Spells texts words ∧ words.foldlM add arguments = .ok result := by
  -- An option with its value takes two arguments at once.
  induction size : texts.length using Nat.strongRecOn generalizing texts arguments with
  | ind n ih =>
  cases texts with
  | nil =>
      cases read
      exact ⟨[], .nil, rfl⟩
  | cons text rest =>
      by_cases option : isOption text
      · by_cases dashes : text = ['-', '-']
        · subst dashes
          rw [take_dashes, take_plain] at read
          exact ⟨_, .plain rest, read⟩
        · obtain ⟨words, waiting, next, opening, added, later⟩ :=
            exists_opening option dashes read
          cases waiting with
          | none =>
              obtain ⟨more, spells, others⟩ := ih rest.length (by simp [← size]) later rfl
              refine ⟨_, .options opening spells, ?_⟩
              rw [List.foldlM_append, added]
              exact others
          | some setting =>
              obtain ⟨value, rest, after, rfl, free, assigned, later⟩ := exists_value later
              have fewer : rest.length < n := by
                rw [← size, List.length_cons, List.length_cons]
                omega
              obtain ⟨more, spells, others⟩ := ih rest.length fewer later rfl
              have last : (Word.setting setting value :: more).foldlM add next = .ok result := by
                rw [List.foldlM_cons, add, assigned]
                exact others
              refine ⟨_, .value opening free spells, ?_⟩
              rw [List.foldlM_append, added]
              exact last
      · have free := Bool.eq_false_iff.mpr option
        rw [take_free _ _ free] at read
        obtain ⟨next, set, later⟩ := exists_of_bind_eq_ok read
        obtain ⟨more, spells, others⟩ := ih rest.length (by simp [← size]) later rfl
        refine ⟨_, .template free spells, ?_⟩
        rw [List.foldlM_cons, add, set]
        exact others

end

end Arguments

theorem readProperty_text (assignment : Assignment) :
    readProperty assignment.text = some (assignment.name, .infer assignment.value) := by
  have nonempty : assignment.name.toList ≠ [] := mt String.toList_eq_nil_iff.mp assignment.nonempty
  rw [readProperty, Assignment.text, cutAt_append assignment.plain]
  simp [nonempty]

theorem foldlM_add_concat {words : List Word} {arguments : Arguments}
    (earlier : words.foldlM Arguments.add .empty = .ok arguments) (word : Word) :
    (words ++ [word]).foldlM Arguments.add .empty = arguments.add word := by
  rw [List.foldlM_append, earlier]
  exact bind_pure (arguments.add word)

theorem Asks.read {words : List Word} {task : Task} (asks : Asks words task) :
    words.foldlM Arguments.add .empty = .ok task.arguments := by
  induction asks with
  | nil => rfl
  | template asks fresh text ih =>
      rw [foldlM_add_concat ih]
      simp [Arguments.add, Arguments.setTemplate, Task.arguments, fresh]
  | property asks assignment ih =>
      rw [foldlM_add_concat ih]
      simp [Arguments.add, Arguments.assign, Task.arguments, readProperty_text]
  | config asks fresh path ih =>
      have nonempty : path.val ≠ "" := path.property
      rw [foldlM_add_concat ih]
      simp [Arguments.add, Arguments.assign, Task.arguments, fresh, nonempty]
  | tokens asks fresh ih =>
      rw [foldlM_add_concat ih]
      simp [Arguments.add, Arguments.turnOn, Task.arguments, fresh]
  | check asks fresh ih =>
      rw [foldlM_add_concat ih]
      simp [Arguments.add, Arguments.turnOn, Task.arguments, fresh]

theorem exists_assignment {text : List Char} {property : String × Scalar}
    (read : readProperty text = some property) : ∃ assignment : Assignment,
      assignment.text = text ∧ property = (assignment.name, .infer assignment.value) := by
  unfold readProperty at read
  split at read
  · next name value cut =>
      obtain ⟨split, absent⟩ := cutAt_eq_some cut
      split at read
      · cases read
      · next nonempty =>
          obtain rfl := Option.some.inj read
          have filled : String.ofList name ≠ "" := by simpa using nonempty
          have plain : '=' ∉ (String.ofList name).toList := by simpa using absent
          refine ⟨⟨String.ofList name, String.ofList value, filled, plain⟩, ?_, rfl⟩
          simp [Assignment.text, split]
  · cases read

theorem Asks.exists_add {words : List Word} {task : Task} (asks : Asks words task) {word : Word}
    {arguments : Arguments} (added : task.arguments.add word = .ok arguments) :
    ∃ larger, Asks (words ++ [word]) larger ∧ larger.arguments = arguments := by
  cases word with
  | template text =>
      simp only [Arguments.add, Arguments.setTemplate] at added
      split at added
      · cases added
      · next fresh =>
          obtain rfl := Except.ok.inj added
          have asked := asks.template (Option.not_isSome_iff_eq_none.mp fresh) (String.ofList text)
          rw [String.toList_ofList] at asked
          exact ⟨_, asked, rfl⟩
  | setting setting value =>
      cases setting with
      | property =>
          simp only [Arguments.add, Arguments.assign] at added
          split at added
          · cases added
          · next property read =>
              obtain rfl := Except.ok.inj added
              obtain ⟨assignment, rfl, rfl⟩ := exists_assignment read
              refine ⟨_, asks.property assignment, ?_⟩
              simp [Task.arguments]
      | config =>
          simp only [Arguments.add, Arguments.assign] at added
          split at added
          · cases added
          · next fresh =>
              obtain rfl := Except.ok.inj added
              obtain ⟨unset, filled⟩ : task.config = none ∧ value ≠ [] := by
                simpa [Task.arguments] using fresh
              have nonempty : String.ofList value ≠ "" := by simpa using filled
              have asked := asks.config unset ⟨String.ofList value, nonempty⟩
              rw [String.toList_ofList] at asked
              exact ⟨_, asked, rfl⟩
  | switch switch =>
      cases switch with
      | help => cases added
      | tokens =>
          simp only [Arguments.add, Arguments.turnOn] at added
          split at added
          · cases added
          · next fresh =>
              obtain rfl := Except.ok.inj added
              exact ⟨_, asks.tokens (Bool.not_eq_true _ ▸ fresh), rfl⟩
      | check =>
          simp only [Arguments.add, Arguments.turnOn] at added
          split at added
          · cases added
          · next fresh =>
              obtain rfl := Except.ok.inj added
              exact ⟨_, asks.check (Bool.not_eq_true _ ▸ fresh), rfl⟩

theorem exists_asks {words : List Word} {arguments : Arguments}
    (read : words.foldlM Arguments.add .empty = .ok arguments) :
    ∃ task, Asks words task ∧ task.arguments = arguments := by
  induction words using List.reverseRecOn generalizing arguments with
  | nil =>
      obtain rfl := Except.ok.inj read
      exact ⟨_, .nil, rfl⟩
  | append_singleton words word ih =>
      cases earlier : words.foldlM Arguments.add .empty with
      | error halt =>
          rw [List.foldlM_append, earlier] at read
          cases read
      | ok before =>
          obtain ⟨task, asks, rfl⟩ := ih earlier
          rw [foldlM_add_concat earlier] at read
          exact asks.exists_add read

/-- The command lines that are read are those that ask for a task, and they are read as it. -/
theorem read_eq_ok_iff (line : List String) (arguments : Arguments) :
    Arguments.read line = .ok arguments ↔
      ∃ task, Commands line task ∧ task.arguments = arguments := by
  rw [Arguments.read]
  constructor
  · intro read
    obtain ⟨words, spells, added⟩ := Arguments.exists_spells read
    obtain ⟨task, asks, same⟩ := exists_asks added
    exact ⟨task, ⟨words, spells, asks⟩, same⟩
  · rintro ⟨task, ⟨words, spells, asks⟩, rfl⟩
    rw [Arguments.take_spelled _ spells, asks.read]

def Task.IsOptional (task : Task) : Prop :=
  ∃ texts words, List.Forall₂ (fun text word => Opening text [word] none) texts words ∧
    Asks words task

theorem Task.IsOptional.add {task larger : Task} {text : List Char} {word : Word}
    (optional : task.IsOptional) (opening : Opening text [word] none)
    (asked : ∀ words, Asks words task → Asks (words ++ [word]) larger) : larger.IsOptional := by
  obtain ⟨texts, words, opened, asks⟩ := optional
  have more := List.rel_append opened (.cons opening .nil)
  exact ⟨_, _, more, asked words asks⟩

theorem Spells.append {texts rest : List (List Char)} {words more : List Word}
    (opened : List.Forall₂ (fun text word => Opening text [word] none) texts words)
    (spells : Spells rest more) : Spells (texts ++ rest) (words ++ more) := by
  induction opened with
  | nil => exact spells
  | cons opening _ ih =>
      have longer := Spells.options opening ih
      exact longer

theorem Task.isOptional (properties : List Assignment)
    (config : Option { path : String // path ≠ "" }) (tokens check : Bool) :
    (Task.mk none properties config tokens check).IsOptional := by
  have bound : (Task.mk none properties none false false).IsOptional := by
    induction properties using List.reverseRecOn with
    | nil => exact ⟨[], [], .nil, .nil⟩
    | append_singleton properties assignment ih =>
        exact ih.add (.letters (List.cons_ne_nil 'p' _) (.equated rfl assignment.text))
          fun words asks => asks.property assignment
  have configured : (Task.mk none properties config false false).IsOptional := by
    cases config with
    | none => exact bound
    | some path =>
        exact bound.add (.letters (List.cons_ne_nil 'c' _) (.equated rfl path.val.toList))
          fun words asks => asks.config rfl path
  have told : (Task.mk none properties config tokens false).IsOptional := by
    cases tokens with
    | false => exact configured
    | true =>
        exact configured.add (.letters (List.cons_ne_nil 't' _) (.switch rfl .nil))
          fun words asks => asks.tokens rfl
  cases check with
  | false => exact told
  | true =>
      have known : Opt.ofName "check".toList = some (.switch .check) := rfl
      exact told.add (.switch known) fun words asks => asks.check rfl

/-- Each task can be asked for, also with a template that begins with a dash. -/
theorem exists_commands (task : Task) : ∃ line, Commands line task := by
  obtain ⟨template, properties, config, tokens, check⟩ := task
  obtain ⟨texts, words, opened, asks⟩ := Task.isOptional properties config tokens check
  have commands {rest : List (List Char)} {more : List Word} {task : Task}
      (spells : Spells rest more) (asks : Asks (words ++ more) task) :
      ∃ line, Commands line task := by
    refine ⟨(texts ++ rest).map String.ofList, words ++ more, ?_, asks⟩
    have same : ((texts ++ rest).map String.ofList).map String.toList = texts ++ rest := by simp
    rw [same]
    exact .append opened spells
  cases template with
  | none =>
      refine commands .nil ?_
      rw [List.append_nil]
      exact asks
  | some text => exact commands (.plain [text.toList]) (asks.template rfl text)

end Stencil.Command
