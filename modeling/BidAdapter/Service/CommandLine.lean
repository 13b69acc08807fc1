import BidAdapter.Service.Config
import BidAdapter.Service.LogRecord
import BidAdapter.Text.Integer

/-!
# Command line

`Arguments.parse` : the arguments of the program. Options stand in front of the command, each at most once, its value in
the next argument or behind an equals sign. `Invocation.run` : what a command prints, from the texts of the files that
it names; `RunError` : why it prints nothing.
-/

namespace BidAdapter

set_option autoImplicit false

open Json (Decoder ReadError Value)
open OpenRtb (BidRequest)

/-! ## Arguments -/

/-- What the program is to do. -/
inductive Command where
  /-- Show what the bid request of a file is sent as. -/
  | request (file : String)
  /-- Show what the exchange body of a file offers. -/
  | response (file : String)
  /-- Serve calls, beside a mock exchange. -/
  | serve (port mockPort timeout : Nat)
deriving DecidableEq, Repr

/-- The settings of a run and its command. -/
structure Invocation where
  configPath : String
  endpoint : Option String
  bidderName : Option String
  logDir : String
  command : Command
deriving DecidableEq, Repr

/-- What arguments ask for. -/
inductive Arguments where
  | run (i : Invocation)
  | version
  | help
  /-- They are not understood. -/
  | refused
deriving DecidableEq, Repr

namespace Arguments

/-- Options that are given so far, with their values. -/
abbrev Given := List (String × String)

/-- Add an option, unless it is there already. -/
def Given.add? (g : Given) (name value : String) : Option Given :=
  if (g.lookup name).isSome then none else some (g ++ [(name, value)])

/-- Whether an argument stands for itself; one that starts with a hyphen names an option, except the hyphen alone. -/
def isPlain (arg : String) : Bool :=
  match arg.toList with
  | '-' :: _ :: _ => false
  | _ => true

/-- The name of a long option and the value behind its equals sign. -/
def longOption? (arg : String) : Option (String × Option String) :=
  match arg.toList with
  | '-' :: '-' :: cs =>
    let name := String.ofList (cs.takeWhile (· ≠ '='))
    match cs.dropWhile (· ≠ '=') with
    | _ :: value => some (name, some (String.ofList value))
    | [] => some (name, none)
  | _ => none

/-- The letter of a short option and what stands behind it. -/
def shortOption? (arg : String) : Option (Char × List Char) :=
  match arg.toList with
  | '-' :: c :: cs => if c = '-' then none else some (c, cs)
  | _ => none

def asksHelp (arg : String) : Bool := arg = "--help" || (shortOption? arg).any fun o => o.1 = 'h'

def asksVersion (arg : String) : Bool := arg = "--version" || (shortOption? arg).any fun o => o.1 = 'V'

/-- The arguments behind a command that takes a file. -/
def parseFile (make : String → Arguments) : Option String → List String → Arguments
  | some file, [] => make file
  | none, [] => .refused
  | file, arg :: rest =>
    if arg = "--" then
      match file.toList ++ rest with
      | [file] => make file
      | _ => .refused
    else if asksHelp arg then .help
    else if isPlain arg && file.isNone then parseFile make (some arg) rest
    else .refused

/-- An unsigned number of at most so many bits, one plus sign in front allowed. -/
def number? (bits : Nat) (text : String) : Option Nat :=
  let digits := match text.toList with
    | '+' :: cs => cs
    | cs => cs
  (Text.natural? digits).filter (· < 2 ^ bits)

/-- The bits of the numbers that the service takes, by the names of its options. -/
def serveOptions : List (String × Nat) := [("port", 16), ("mock-port", 16), ("timeout-ms", 64)]

def serveCommand (g : Given) : Option Command := do
  let number (name : String) (bits usual : Nat) : Option Nat :=
    match g.lookup name with
    | some text => number? bits text
    | none => some usual
  let port ← number "port" 16 8080
  let mockPort ← number "mock-port" 16 9001
  let timeout ← number "timeout-ms" 64 300
  return .serve port mockPort timeout

/-- The arguments behind the command that serves. -/
def parseServe (make : Command → Arguments) (g : Given) : List String → Arguments
  | [] => ((serveCommand g).map make).getD .refused
  | arg :: rest =>
    if asksHelp arg then .help
    else
      let option := match shortOption? arg with
        | some ('p', []) => some ("port", none)
        | some ('p', '=' :: value) => some ("port", some (String.ofList value))
        | some ('p', value) => some ("port", some (String.ofList value))
        | some _ => none
        | none => longOption? arg
      match option, rest with
      | some (name, some value), rest =>
        if (serveOptions.lookup name).isNone then .refused
        else match g.add? name value with
          | some g => parseServe make g rest
          | none => .refused
      | some (name, none), value :: rest =>
        if (serveOptions.lookup name).isNone || !isPlain value then .refused
        else match g.add? name value with
          | some g => parseServe make g rest
          | none => .refused
      | _, _ => .refused

/-- A run of a command under the options. -/
def runOf (g : Given) (c : Command) : Arguments :=
  .run ⟨(g.lookup "config").getD "static/pubmatic.json", g.lookup "endpoint", g.lookup "bidder-name",
    (g.lookup "log-dir").getD "logs", c⟩

/-- The names of the options in front of the command. -/
def optionNames : List String := ["config", "endpoint", "bidder-name", "log-dir"]

def commandNames : List String := ["request", "response", "serve", "help"]

/-- A command with the arguments behind it. -/
def parseCommand (g : Given) (name : String) (rest : List String) : Arguments :=
  if name = "request" then parseFile (fun file => runOf g (.request file)) none rest
  else if name = "response" then parseFile (fun file => runOf g (.response file)) none rest
  else if name = "serve" then parseServe (runOf g) [] rest
  else if name = "help" && rest.all commandNames.contains then .help
  else .refused

/-- The arguments behind options that are given. -/
def parseFrom (g : Given) : List String → Arguments
  | [] => .refused
  | arg :: rest =>
    if asksHelp arg then .help
    else if asksVersion arg then .version
    else if isPlain arg then parseCommand g arg rest
    else match longOption? arg, rest with
      | some (name, some value), rest =>
        if !optionNames.contains name then .refused
        else match g.add? name value with
          | some g => parseFrom g rest
          | none => .refused
      | some (name, none), value :: rest =>
        if !optionNames.contains name || !isPlain value then .refused
        else match g.add? name value with
          | some g => parseFrom g rest
          | none => .refused
      | _, _ => .refused

/-- The arguments of the program. -/
def parse (args : List String) : Arguments := parseFrom [] args

end Arguments

/-! ## Runs -/

/-- The name and the version of the program. -/
def versionLine : String := "pubmatic-adapter 1.0"

/-- Why a run prints nothing. -/
inductive RunError where
  | config (e : ConfigError)
  /-- The file of the command cannot be read. -/
  | unreadable (reason : String)
  /-- The file of the command is no bid request. -/
  | unparsable (e : ReadError)
  /-- The command needs a network. -/
  | offline

def RunError.message : RunError → String
  | .config e => e.message
  | .unreadable reason => reason
  | .unparsable e => e.message
  | .offline => "no network to serve on"

def FileText.needed : FileText → Except RunError String
  | .text s => .ok s
  | .missing => .error (.unreadable "No such file or directory (os error 2)")
  | .unreadable reason => .error (.unreadable reason)

def Command.file? : Command → Option String
  | .request file | .response file => some file
  | .serve _ _ _ => none

namespace Invocation

/-- The document that a run prints, from the texts of the configuration file and of the command's file. -/
def run (i : Invocation) (configFile input : FileText) : Except RunError Value := do
  let config ← (Config.load i.configPath configFile i.endpoint i.bidderName).mapError .config
  let bidder ← config.bidder.mapError .config
  match i.command with
  | .request _ =>
    let text ← input.needed
    let request ← (Decoder.read BidRequest.decoder text).mapError .unparsable
    return (bidder.dispatch request).toJson
  | .response _ =>
    let text ← input.needed
    return (Answer.ofBody text).toJson
  | .serve _ _ _ => throw .offline

end Invocation

end BidAdapter
