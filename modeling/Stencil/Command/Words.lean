import Stencil.Command.Run

/-!
The grammar of command lines: the words that a line is made of, how they are spelled as arguments,
and the task that they ask for together.
-/

namespace Stencil.Command

inductive Word
  | template (text : List Char)
  | setting (setting : Setting) (value : List Char)
  | switch (switch : Switch)

def Arguments.add (arguments : Arguments) : Word → Except Halt Arguments
  | .template text => arguments.setTemplate text
  | .setting setting value => arguments.assign value setting
  | .switch switch => arguments.turnOn switch

/-- Letters behind one dash: switches, and at the end perhaps an option, with its value or without.
The third part is the option whose value is still to come. -/
inductive Group : List Char → List Word → Option Setting → Prop
  | nil : Group [] [] none
  | switch {letter : Char} {letters : List Char} {words : List Word} {switch : Switch}
      {waiting : Option Setting} (known : Opt.ofLetter letter = some (.switch switch))
      (group : Group letters words waiting) :
      Group (letter :: letters) (.switch switch :: words) waiting
  | apart {letter : Char} {setting : Setting}
      (known : Opt.ofLetter letter = some (.setting setting)) : Group [letter] [] (some setting)
  | equated {letter : Char} {setting : Setting}
      (known : Opt.ofLetter letter = some (.setting setting)) (value : List Char) :
      Group (letter :: '=' :: value) [.setting setting value] none
  | joined {letter : Char} {setting : Setting} {value : List Char}
      (known : Opt.ofLetter letter = some (.setting setting)) (nonempty : value ≠ [])
      (other : value.head? ≠ some '=') : Group (letter :: value) [.setting setting value] none

inductive Opening : List Char → List Word → Option Setting → Prop
  | letters {letters : List Char} {words : List Word} {waiting : Option Setting}
      (nonempty : letters ≠ []) (group : Group letters words waiting) :
      Opening ('-' :: letters) words waiting
  | switch {name : List Char} {switch : Switch}
      (known : Opt.ofName name = some (.switch switch)) :
      Opening ('-' :: '-' :: name) [.switch switch] none
  | apart {name : List Char} {setting : Setting}
      (known : Opt.ofName name = some (.setting setting)) :
      Opening ('-' :: '-' :: name) [] (some setting)
  | equated {name : List Char} {setting : Setting}
      (known : Opt.ofName name = some (.setting setting)) (value : List Char) :
      Opening ('-' :: '-' :: (name ++ '=' :: value)) [.setting setting value] none

/-- The words that a command line spells. Behind two dashes alone everything is a template. -/
inductive Spells : List (List Char) → List Word → Prop
  | nil : Spells [] []
  | template {text : List Char} {rest : List (List Char)} {more : List Word}
      (free : Arguments.isOption text = false) (spells : Spells rest more) :
      Spells (text :: rest) (.template text :: more)
  | options {text : List Char} {rest : List (List Char)} {words more : List Word}
      (opening : Opening text words none) (spells : Spells rest more) :
      Spells (text :: rest) (words ++ more)
  | value {text value : List Char} {rest : List (List Char)} {words more : List Word}
      {setting : Setting} (opening : Opening text words (some setting))
      (free : Arguments.isOption value = false) (spells : Spells rest more) :
      Spells (text :: value :: rest) (words ++ .setting setting value :: more)
  | plain (texts : List (List Char)) : Spells (['-', '-'] :: texts) (texts.map .template)

/-- A property as it is given. The name ends at the first `=`. -/
structure Assignment where
  name : String
  value : String
  nonempty : name ≠ ""
  plain : '=' ∉ name.toList

def Assignment.text (assignment : Assignment) : List Char :=
  assignment.name.toList ++ '=' :: assignment.value.toList

structure Task where
  template : Option String
  properties : List Assignment
  config : Option { path : String // path ≠ "" }
  tokens : Bool
  check : Bool

namespace Task

def arguments (task : Task) : Arguments where
  template := task.template
  properties := task.properties.map fun assignment => (assignment.name, .infer assignment.value)
  config := task.config.map Subtype.val
  tokens := task.tokens
  check := task.check

def bindings (task : Task) : Properties := fun name =>
  (task.properties.reverse.find? (·.name == name)).map fun assignment =>
    (Scalar.infer assignment.value).value

end Task

/-- The words ask for the task: each of them for its part of it, and nothing but a property is asked
for twice. -/
inductive Asks : List Word → Task → Prop
  | nil : Asks [] ⟨none, [], none, false, false⟩
  | template {words : List Word} {task : Task} (asks : Asks words task)
      (fresh : task.template = none) (text : String) :
      Asks (words ++ [.template text.toList]) { task with template := some text }
  | property {words : List Word} {task : Task} (asks : Asks words task) (assignment : Assignment) :
      Asks (words ++ [.setting .property assignment.text])
        { task with properties := task.properties ++ [assignment] }
  | config {words : List Word} {task : Task} (asks : Asks words task)
      (fresh : task.config = none) (path : { path : String // path ≠ "" }) :
      Asks (words ++ [.setting .config path.val.toList]) { task with config := some path }
  | tokens {words : List Word} {task : Task} (asks : Asks words task)
      (fresh : task.tokens = false) :
      Asks (words ++ [.switch .tokens]) { task with tokens := true }
  | check {words : List Word} {task : Task} (asks : Asks words task)
      (fresh : task.check = false) :
      Asks (words ++ [.switch .check]) { task with check := true }

def Commands (line : List String) (task : Task) : Prop :=
  ∃ words, Spells (line.map String.toList) words ∧ Asks words task

end Stencil.Command
