import Stencil.Command.Run

/-!
The command line. Files and standard input are read only when the arguments need them.
-/

namespace Stencil.Command

def usageText : String :=
  "Usage: stencil [OPTIONS] [TEMPLATE]\n\n" ++
  "  -p, --property NAME=VALUE   Property value (repeatable)\n" ++
  "  -c, --config FILE           Culture and cache settings (TOML)\n" ++
  "  -t, --tokens                Print the parsed tokens instead of rendering\n" ++
  "      --check                 Report malformed placeholders\n" ++
  "  -h, --help                  Print help\n"

partial def readAll (input : IO.FS.Stream) (bytes : ByteArray) : IO ByteArray := do
  let more ← input.read 65536
  if more.isEmpty then return bytes else readAll input (bytes ++ more)

def readFile (path : String) : IO (Option ByteArray) := do
  try
    return some (← IO.FS.readBinFile path)
  catch _ =>
    return none

def execute (arguments : Arguments) : IO UInt32 := do
  let file ← arguments.config.elim (pure none) readFile
  let input ← if arguments.template.isSome then pure ByteArray.empty
    else readAll (← IO.getStdin) ByteArray.empty
  let outcome := run (fun _ => file) input arguments
  IO.print outcome.out
  IO.eprint outcome.err
  return outcome.code

def perform (arguments : List String) : IO UInt32 := do
  match Arguments.read arguments with
  | .error .help =>
      IO.print usageText
      return 0
  | .error .usage =>
      IO.eprint usageText
      return 2
  | .ok arguments =>
      if arguments.template.isNone && (← (← IO.getStdin).isTty) then
        IO.print usageText
        return 0
      else execute arguments

end Stencil.Command

def main (arguments : List String) : IO UInt32 := Stencil.Command.perform arguments
