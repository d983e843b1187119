import Stencil.Command.Arguments
import Stencil.Command.Listing
import Stencil.Config
import Stencil.Rendering
import Stencil.Report

namespace Stencil.Command

structure Outcome where
  code : UInt32
  out : String
  err : String
  deriving DecidableEq

def Outcome.success (out : String) : Outcome := ⟨0, out, ""⟩

def Outcome.failure (err : String) : Outcome := ⟨1, "", err⟩

def configErrorText : ConfigError → String
  | .unreadable => "Failed to read config file"
  | .malformed => "Failed to parse config TOML"

/-- The configuration that the arguments name. `files` gives the bytes of a file, if it exists. -/
def loadConfig (files : String → Option ByteArray) (arguments : Arguments) :
    Except String Config :=
  match arguments.config with
  | none => .ok .usual
  | some path =>
      match Config.ofFile (files path) with
      | .ok config => .ok config
      | .error error =>
          .error ("Error loading config '" ++ path ++ "': " ++ configErrorText error ++ "\n")

def trimBreaks : List Char → List Char
  | [] => []
  | c :: rest =>
      match trimBreaks rest with
      | [] => if c = '\n' ∨ c = '\r' then [] else [c]
      | kept => c :: kept

def loadTemplate (input : ByteArray) (arguments : Arguments) : Except String String :=
  match arguments.template with
  | some text => .ok text
  | none =>
      match String.fromUTF8? input with
      | some text => .ok (String.ofList (trimBreaks text.toList))
      | none => .error "Error reading from stdin: stream did not contain valid UTF-8\n"

def checkTemplate (text : String) : Outcome :=
  match Template.check text with
  | [] => .success ""
  | diagnostics =>
      .failure (String.join (diagnostics.map fun diagnostic => diagnostic.report text "template"))

def Arguments.bindings (arguments : Arguments) : Properties :=
  .ofList (arguments.properties.map fun (name, scalar) => (name, scalar.value))

def renderTemplate (arguments : Arguments) (config : Config) (template : Template) : Outcome :=
  match template.renderText arguments.bindings config.culture.symbols with
  | .ok text => .success (text ++ "\n")
  | .error error => .failure ("Error: " ++ error.message ++ "\n")

def process (arguments : Arguments) (config : Config) (text : String) : Outcome :=
  if arguments.check then checkTemplate text
  else
    let template := ((Cache.empty config.limits).get text).1.template
    if arguments.tokens then .success (listing template.pieces)
    else renderTemplate arguments config template

def run (files : String → Option ByteArray) (input : ByteArray) (arguments : Arguments) :
    Outcome :=
  match loadConfig files arguments with
  | .error message => .failure message
  | .ok config =>
      match loadTemplate input arguments with
      | .error message => .failure message
      | .ok text => process arguments config text

end Stencil.Command
