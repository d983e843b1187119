import Stencil.Text.Cut
import Stencil.Value.Scalar

/-!
The arguments of the command: at most one template, properties as `NAME=VALUE`, a configuration
file, and the wish for the token list or for a check. They are taken one after the other, and the
first that is wrong, or asks for help, ends the reading.
-/

namespace Stencil.Command

structure Arguments where
  template : Option String
  /-- In the order in which they are given. -/
  properties : List (String × Scalar)
  config : Option String
  tokens : Bool
  check : Bool
  deriving DecidableEq

inductive Halt
  | usage
  | help
  deriving DecidableEq

inductive Switch
  | tokens
  | check
  | help
  deriving DecidableEq

inductive Setting
  | property
  | config
  deriving DecidableEq

inductive Opt
  | switch (switch : Switch)
  | setting (setting : Setting)
  deriving DecidableEq

def Opt.ofName (name : List Char) : Option Opt :=
  match String.ofList name with
  | "property" => some (setting .property)
  | "config" => some (setting .config)
  | "tokens" => some (switch .tokens)
  | "check" => some (switch .check)
  | "help" => some (switch .help)
  | _ => none

def Opt.ofLetter : Char → Option Opt
  | 'p' => some (setting .property)
  | 'c' => some (setting .config)
  | 't' => some (switch .tokens)
  | 'h' => some (switch .help)
  | _ => none

def readProperty (text : List Char) : Option (String × Scalar) :=
  match cutAt '=' text with
  | (name, some value) =>
      if name.isEmpty then none else some (String.ofList name, .infer (String.ofList value))
  | (_, none) => none

namespace Arguments

def empty : Arguments := ⟨none, [], none, false, false⟩

def turnOn (arguments : Arguments) : Switch → Except Halt Arguments
  | .help => .error .help
  | .tokens => if arguments.tokens then .error .usage else .ok { arguments with tokens := true }
  | .check => if arguments.check then .error .usage else .ok { arguments with check := true }

def assign (arguments : Arguments) (value : List Char) : Setting → Except Halt Arguments
  | .property =>
      match readProperty value with
      | none => .error .usage
      | some property => .ok { arguments with properties := arguments.properties ++ [property] }
  | .config =>
      if arguments.config.isSome || value.isEmpty then .error .usage
      else .ok { arguments with config := some (String.ofList value) }

def setTemplate (arguments : Arguments) (text : List Char) : Except Halt Arguments :=
  if arguments.template.isSome then .error .usage
  else .ok { arguments with template := some (String.ofList text) }

/-- Letters after one dash: switches, and at the end perhaps an option with its value. An option
without one waits for the next argument. -/
def takeLetters (arguments : Arguments) :
    List Char → Except Halt (Arguments × Option Setting)
  | [] => .ok (arguments, none)
  | letter :: rest =>
      match Opt.ofLetter letter with
      | none => .error .usage
      | some (.switch switch) => do takeLetters (← arguments.turnOn switch) rest
      | some (.setting setting) =>
          match rest with
          | [] => .ok (arguments, some setting)
          | '=' :: value | value => do return (← arguments.assign value setting, none)

def takeName (arguments : Arguments) (text : List Char) :
    Except Halt (Arguments × Option Setting) :=
  match cutAt '=' text with
  | (name, value) =>
      match Opt.ofName name, value with
      | some (.switch switch), none => do return (← arguments.turnOn switch, none)
      | some (.setting setting), none => .ok (arguments, some setting)
      | some (.setting setting), some value => do
          return (← arguments.assign value setting, none)
      | _, _ => .error .usage

/-- A dash with something behind it cannot be a value of its own. -/
def isOption : List Char → Bool
  | '-' :: _ :: _ => true
  | _ => false

/-- Takes the arguments in order. `waiting` is an option whose value is still missing, and after two
dashes alone everything is a `plain` text. -/
def take (arguments : Arguments) (waiting : Option Setting) (plain : Bool) :
    List (List Char) → Except Halt Arguments
  | [] => if waiting.isSome then .error .usage else .ok arguments
  | text :: rest =>
      match waiting with
      | some setting => do
          if isOption text then .error .usage
          else take (← arguments.assign text setting) none plain rest
      | none =>
          if plain || !isOption text then do
            take (← arguments.setTemplate text) none plain rest
          else
            match text with
            | ['-', '-'] => take arguments none true rest
            | '-' :: '-' :: name => do
                let (arguments, waiting) ← arguments.takeName name
                take arguments waiting plain rest
            | _ => do
                let (arguments, waiting) ← arguments.takeLetters (text.drop 1)
                take arguments waiting plain rest

def read (arguments : List String) : Except Halt Arguments :=
  empty.take none false (arguments.map String.toList)

end Arguments

end Stencil.Command
