import BidAdapter.Service.CommandLine

/-!
# The program

Reads the files that the arguments name, and prints what the run comes to.
-/

namespace BidAdapter

set_option autoImplicit false

def readFileText (path : String) : IO FileText := do
  try
    return .text (← IO.FS.readFile path)
  catch
    | .noFileOrDirectory _ _ _ => return .missing
    | .inappropriateType _ code details => return .unreadable (details ++ " (os error " ++ toString code ++ ")")
    | e => return .unreadable (toString e)

/-- Run an invocation and print its document or its error. -/
def perform (i : Invocation) : IO UInt32 := do
  let configFile ← readFileText i.configPath
  let input ← match i.command.file? with
    | some file => readFileText file
    | none => pure .missing
  match i.run configFile input with
  | .ok v =>
    IO.println v.pretty
    return 0
  | .error e =>
    IO.eprintln ("pubmatic-adapter: " ++ e.message)
    return 1

end BidAdapter

/-- Do what the arguments ask for. -/
def main (args : List String) : IO UInt32 := do
  match BidAdapter.Arguments.parse args with
  | .run i => BidAdapter.perform i
  | .version =>
    IO.println BidAdapter.versionLine
    return 0
  | .help =>
    IO.println "Usage: pubmatic-adapter [OPTIONS] <COMMAND>"
    return 0
  | .refused => return 2
