import Stencil.Proofs.Cache.Transparency
import Stencil.Proofs.Command.Arguments
import Stencil.Proofs.Configuration

/-!
The command does what the library does: it renders the text that it is given with the properties
and the culture that it is given, whatever its cache holds back, and it checks that text.
-/

namespace Stencil

theorem Properties.ofList_eq (bindings : List (String × Value)) (name : String) :
    ofList bindings name = (bindings.reverse.find? (·.1 == name)).map Prod.snd := by
  have folded (start : Properties) :
      bindings.foldl (fun properties binding other =>
          if other = binding.1 then some binding.2 else properties other) start name =
        ((bindings.reverse.find? (·.1 == name)).map Prod.snd).or (start name) := by
    induction bindings generalizing start with
    | nil => rfl
    | cons binding rest ih =>
        rw [List.foldl_cons, ih, List.reverse_cons, List.find?_append]
        cases rest.reverse.find? (·.1 == name) with
        | some later => rfl
        | none => by_cases own : name = binding.1 <;> simp [own, Ne.symm]
  rw [ofList, folded]
  simp

namespace Command

theorem Task.bindings_arguments (task : Task) : task.arguments.bindings = task.bindings := by
  funext name
  rw [Arguments.bindings, Properties.ofList_eq, bindings, arguments, List.map_map,
    ← List.map_reverse, List.find?_map, Option.map_map]
  rfl

def IsBreak (c : Char) : Prop := c = '\n' ∨ c = '\r'

instance : DecidablePred IsBreak := fun c => inferInstanceAs (Decidable (c = '\n' ∨ c = '\r'))

theorem trimBreaks_of_all {breaks : List Char} (all : ∀ c ∈ breaks, IsBreak c) :
    trimBreaks breaks = [] := by
  induction breaks with
  | nil => rfl
  | cons c rest ih =>
      obtain ⟨first, others⟩ := List.forall_mem_cons.mp all
      rw [trimBreaks, ih others]
      exact if_pos first

theorem trimBreaks_append {kept breaks : List Char} (last : ∀ c ∈ kept.getLast?, ¬ IsBreak c)
    (all : ∀ c ∈ breaks, IsBreak c) : trimBreaks (kept ++ breaks) = kept := by
  induction kept with
  | nil => exact trimBreaks_of_all all
  | cons c rest ih =>
      rw [List.cons_append, trimBreaks]
      cases rest with
      | nil =>
          rw [List.nil_append, trimBreaks_of_all all]
          exact if_neg (last c rfl)
      | cons next more => rw [ih last]

theorem exists_breaks (text : List Char) :
    ∃ kept breaks, text = kept ++ breaks ∧ (∀ c ∈ kept.getLast?, ¬ IsBreak c) ∧
      ∀ c ∈ breaks, IsBreak c := by
  induction text with
  | nil => exact ⟨[], [], rfl, nofun, nofun⟩
  | cons c rest ih =>
      obtain ⟨kept, breaks, rfl, last, all⟩ := ih
      cases kept with
      | nil =>
          by_cases here : IsBreak c
          · exact ⟨[], c :: breaks, rfl, nofun, List.forall_mem_cons.mpr ⟨here, all⟩⟩
          · refine ⟨[c], breaks, rfl, ?_, all⟩
            rintro d ⟨⟩
            exact here
      | cons next more => exact ⟨c :: next :: more, breaks, rfl, last, all⟩

/-- The text that the template is: the argument, or else what the standard input holds before the
line breaks at its end. -/
def Task.IsSource (task : Task) (input : ByteArray) (source : String) : Prop :=
  match task.template with
  | some text => source = text
  | none => ∃ breaks : List Char, input = (source ++ String.ofList breaks).toUTF8 ∧
      (∀ c ∈ source.toList.getLast?, ¬ IsBreak c) ∧ ∀ c ∈ breaks, IsBreak c

theorem loadTemplate_eq_ok_iff (task : Task) (input : ByteArray) (source : String) :
    loadTemplate input task.arguments = .ok source ↔ task.IsSource input source := by
  rw [loadTemplate, Task.IsSource, Task.arguments]
  cases task.template with
  | some text => exact ⟨fun same => (Except.ok.inj same).symm, fun same => congrArg _ same.symm⟩
  | none =>
      dsimp only
      constructor
      · intro loaded
        split at loaded
        · next text decoded =>
            obtain ⟨kept, breaks, split, last, all⟩ := exists_breaks text.toList
            obtain rfl := Except.ok.inj loaded
            rw [split, trimBreaks_append last all, String.toList_ofList]
            refine ⟨breaks, ?_, last, all⟩
            rw [← String.ofList_append, ← split, String.ofList_toList]
            exact (fromUTF8?_eq_some_iff input text).mp decoded
        · cases loaded
      · rintro ⟨breaks, rfl, last, all⟩
        rw [(fromUTF8?_eq_some_iff _ (source ++ String.ofList breaks)).mpr rfl]
        dsimp only
        rw [String.toList_append, String.toList_ofList, trimBreaks_append last all,
          String.ofList_toList]

/-- The configuration that the task is carried out with: what is read from the file that it names,
or the usual one if it names none. -/
def Task.IsConfigured (task : Task) (files : String → Option ByteArray) (config : Config) : Prop :=
  match task.config with
  | some path => Config.ofFile (files path) = .ok config
  | none => config = .usual

theorem loadConfig_eq_ok_iff (task : Task) (files : String → Option ByteArray) (config : Config) :
    loadConfig files task.arguments = .ok config ↔ task.IsConfigured files config := by
  rw [loadConfig, Task.IsConfigured, Task.arguments]
  cases task.config with
  | none => exact ⟨fun same => (Except.ok.inj same).symm, fun same => congrArg _ same.symm⟩
  | some path =>
      dsimp only [Option.map_some]
      cases Config.ofFile (files path) with
      | ok | error => simp

/-- A file can be named for each configuration with limits that are signed words. -/
theorem Task.isConfigured_document {task : Task} (named : task.config.isSome) {config : Config}
    (fits : config.Fits) : task.IsConfigured (fun _ => some config.document.toUTF8) config := by
  rcases Option.isSome_iff_exists.mp named with ⟨path, given⟩
  rw [IsConfigured, given]
  exact Config.ofFile_document fits

theorem process_eq (arguments : Arguments) (config : Config) (text : String) :
    process arguments config text =
      if arguments.check then checkTemplate text
      else if arguments.tokens then .success (listing (Template.parse text).pieces)
      else renderTemplate arguments config (.parse text) := by
  rw [process, (Cache.isFaithful_empty config.limits).template_get text]

def Outcome.ofText : Except RenderError String → Outcome
  | .ok text => ⟨0, text ++ "\n", ""⟩
  | .error error => ⟨1, "", "Error: " ++ error.message ++ "\n"⟩

theorem renderTemplate_eq (arguments : Arguments) (config : Config) (template : Template) :
    renderTemplate arguments config template =
      .ofText (template.renderText arguments.bindings config.culture.symbols) := by
  rw [renderTemplate]
  split
  · next same => rw [same]; rfl
  · next same => rw [same]; rfl

theorem checkTemplate_eq (text : String) :
    (checkTemplate text).out = "" ∧
      (checkTemplate text).code = if Template.check text = [] then 0 else 1 := by
  rw [checkTemplate]
  cases Template.check text with
  | nil => exact ⟨rfl, rfl⟩
  | cons => exact ⟨rfl, rfl⟩

section

variable {task : Task} {files : String → Option ByteArray} {input : ByteArray} {source : String}
  {config : Config}

theorem Task.run_eq (given : task.IsSource input source)
    (configured : task.IsConfigured files config) :
    run files input task.arguments =
      if task.check then checkTemplate source
      else if task.tokens then .success (listing (Template.parse source).pieces)
      else .ofText ((Template.parse source).renderText task.bindings config.culture.symbols) := by
  have text := (loadTemplate_eq_ok_iff task input source).mpr given
  rw [run, (loadConfig_eq_ok_iff task files config).mpr configured, text]
  dsimp only
  rw [process_eq, renderTemplate_eq, task.bindings_arguments]
  rfl

end

/-- There is a command line for each task, and it is read as that task. What is shown, if there is
neither a check nor a token list, is what the parsed source is rendered to, or the error. Of the
configuration in the file that is named only the culture counts. If none is named, it is what a
shared cache renders, after any moves. A check shows nothing, and its code tells whether there are
faults. -/
theorem run_agrees {task : Task} {files : String → Option ByteArray} {input : ByteArray}
    {source : String} {config : Config} (given : task.IsSource input source)
    (configured : task.IsConfigured files config) :
    ((∃ line, Commands line task) ∧
        ∀ line, Commands line task → Arguments.read line = .ok task.arguments) ∧
      (task.check = false → task.tokens = false → run files input task.arguments =
        .ofText ((Template.parse source).renderText task.bindings config.culture.symbols)) ∧
      (∀ (files' : String → Option ByteArray) (config' : Config),
        task.IsConfigured files' config' → config'.culture = config.culture →
        run files' input task.arguments = run files input task.arguments) ∧
      (task.check = false → task.tokens = false → task.config = none → ∀ moves : List Move,
        run files input task.arguments =
          .ofText ((((World.mk (.empty .usual) []).run moves).cache.renderText task.bindings none
            source).1)) ∧
      (task.check = true → (run files input task.arguments).out = "" ∧
        (run files input task.arguments).code = if Template.check source = [] then 0 else 1) := by
  have outcome := Task.run_eq given configured
  refine ⟨⟨exists_commands task, ?_⟩, ?_, ?_, ?_, ?_⟩
  · intro line commands
    exact (read_eq_ok_iff line _).mpr ⟨task, commands, rfl⟩
  · intro unchecked untold
    rw [outcome]
    simp [unchecked, untold]
  · intro files' config' reconfigured same
    rw [outcome, Task.run_eq given reconfigured, same]
  · intro unchecked untold bare moves
    have usual : config = .usual := by
      rw [Task.IsConfigured, bare] at configured
      exact configured
    have serving := World.isServing_run (Cache.isFaithful_empty .usual) moves
    rw [outcome, usual, serving.faithful.renderText task.bindings none source]
    simp [unchecked, untold, Config.usual, Culture.invariant]
  · intro checked
    rw [outcome, if_pos checked]
    exact checkTemplate_eq source

theorem run_agrees_last_property :
    let document := "[culture]\ndecimal_separator = \",\"\ngroup_separator = \".\"\n\n" ++
      "[cache]\nmax_entries = 0\n"
    let files : String → Option ByteArray := fun path =>
      if path = "comma.toml" then some document.toUTF8 else none
    let config : Config := ⟨⟨"invariant", ",", ".", "-"⟩, ⟨0, 1024⟩⟩
    let line := ["-c", "comma.toml", "-pB=-1234.5", "-p", "A=1", "-pA=x=y"]
    let task : Task := ⟨none, [⟨"B", "-1234.5", by decide, by decide⟩,
      ⟨"A", "1", by decide, by decide⟩, ⟨"A", "x=y", by decide, by decide⟩],
      some ⟨"comma.toml", by decide⟩, false, false⟩
    let source := "\x7bA:l\x7d \x7bB:N1\x7d"
    let input := (source ++ String.ofList ['\r', '\n']).toUTF8
    let checking := ["--check", "-tpA=1", "\x7bA"]
    let checked : Task := ⟨some "\x7bA", [⟨"A", "1", by decide, by decide⟩], none, true, true⟩
    (Commands line task ∧ Arguments.read line = .ok task.arguments ∧
      task.IsSource input source ∧ task.IsConfigured files config ∧
      run files input task.arguments = ⟨0, "x=y -1.234,5\n", ""⟩) ∧
      Commands checking checked ∧ checked.IsSource .empty "\x7bA" ∧
      checked.IsConfigured files .usual ∧
      (run files .empty checked.arguments).out = "" ∧
      (run files .empty checked.arguments).code = 1 := by
  intro document files config line task source input checking checked
  have property (value : List Char) (nonempty : value ≠ []) (other : value.head? ≠ some '=') :
      Group ('p' :: value) [.setting .property value] none := .joined rfl nonempty other
  have commands : Commands line task := by
    have first : Opening "-c".toList [] (some .config) := .letters (by decide) (.apart rfl)
    have second : Opening "-pB=-1234.5".toList [.setting .property "B=-1234.5".toList] none :=
      .letters (by decide) (property "B=-1234.5".toList (by decide) (by decide))
    have third : Opening "-p".toList [] (some .property) := .letters (by decide) (.apart rfl)
    have fourth : Opening "-pA=x=y".toList [.setting .property "A=x=y".toList] none :=
      .letters (by decide) (property "A=x=y".toList (by decide) (by decide))
    have asks := (((Asks.nil.config rfl ⟨"comma.toml", by decide⟩).property
      ⟨"B", "-1234.5", by decide, by decide⟩).property ⟨"A", "1", by decide, by decide⟩).property
      ⟨"A", "x=y", by decide, by decide⟩
    exact ⟨_, .value first rfl (.options second (.value third rfl (.options fourth .nil))), asks⟩
  have commanded : Commands checking checked := by
    have first : Opening "--check".toList [.switch .check] none := .switch rfl
    have second : Opening "-tpA=1".toList [.switch .tokens, .setting .property "A=1".toList] none :=
      .letters (by decide) (.switch rfl (property "A=1".toList (by decide) (by decide)))
    have asks := (((Asks.nil.check rfl).tokens rfl).property
      ⟨"A", "1", by decide, by decide⟩).template rfl "\x7bA"
    exact ⟨_, .options first (.options second (.template rfl .nil)), asks⟩
  have given : task.IsSource input source := by
    have last : source.toList.getLast? = some '}' := by decide
    refine ⟨['\r', '\n'], rfl, ?_, by simp [IsBreak]⟩
    rw [last]
    rintro c ⟨⟩
    decide
  have configured : task.IsConfigured files config :=
    (Config.ofFile_eq_ok_iff _ config).mpr ⟨document, if_pos rfl, by decide +kernel⟩
  have text : Outcome.ofText ((Template.parse source).renderText task.bindings
      config.culture.symbols) = ⟨0, "x=y -1.234,5\n", ""⟩ := by decide +kernel
  have faults : Template.check "\x7bA" ≠ [] := by decide +kernel
  have argument : checked.IsSource .empty "\x7bA" := rfl
  have usual : checked.IsConfigured files .usual := rfl
  rcases run_agrees given configured with ⟨⟨-, reads⟩, rendered, -⟩
  rcases run_agrees argument usual with ⟨-, -, -, -, reported⟩
  rcases reported rfl with ⟨silent, code⟩
  rw [if_neg faults] at code
  exact ⟨⟨commands, reads line commands, given, configured, (rendered rfl rfl).trans text⟩,
    commanded, argument, usual, silent, code⟩

end Command

end Stencil
