import CoupledFs.CommandLine.Grammar
import CoupledFs.Log.Settings
import CoupledFs.Text.Decimal
import CoupledFs.Workload

/-! The command line of the workload program: options for logging, then `run`, then options for the
workload. -/

namespace CoupledFs.CommandLine

/-- What the command line asks for. -/
structure Arguments where
  logging : Log.Settings
  request : Workload.Request
  deriving Repr

/-- A value that has to be one of several words. -/
private def chosen (value : Option α) : Except UsageError α :=
  match value with
  | some a => .ok a
  | none => .error .invalidValue

/-- A value that has to be a number. -/
private def counted (value : Option Nat) : Except UsageError Nat :=
  match value with
  | some n => .ok n
  | none => .error .unreadableValue

private def fileName (value : String) : Except UsageError String :=
  if value = "" then .error .invalidValue else .ok value

/-- The options before the command. -/
def loggingGrammar : Grammar Log.Settings.Field Log.Settings where
  option? := Log.Settings.Field.ofName?
  assign option value settings :=
    match option with
    | .level => do return { settings with level := ← chosen (Log.Level.ofWord? value) }
    | .format => do return { settings with format := ← chosen (Log.Format.ofWord? value) }
    | .directory => .ok { settings with directory := value }
    | .file => .ok { settings with file := value }
  hasVersion := true

/-- The options of the command. -/
inductive RunOption where
  | threads
  | depth
  | fanout
  | config
  | pathStyle
  | reportFile
  deriving DecidableEq, Repr

def RunOption.ofName? : String → Option RunOption
  | "threads" => some threads
  | "depth" => some depth
  | "fanout" => some fanout
  | "config" => some config
  | "path-style" => some pathStyle
  | "json-output" => some reportFile
  | _ => none

/-- The greatest number of threads, and of children of a directory. -/
def maxCount : Nat := UInt64.size - 1

def maxDepth : Nat := UInt32.size - 1

/-- The options behind the command. -/
def runGrammar : Grammar RunOption Workload.Request where
  option? := RunOption.ofName?
  assign option value request :=
    match option with
    | .threads => do
      return { request with threads := ← counted (Text.natural? maxCount value) }
    | .depth => do
      return { request with depth := ← counted (Text.signedNatural? maxDepth value) }
    | .fanout => do
      return { request with fanout := ← counted (Text.natural? maxCount value) }
    | .config => do return { request with config := some (← fileName value) }
    | .pathStyle => do return { request with pathStyle := some (← chosen (PathStyle.ofWord? value)) }
    | .reportFile => do return { request with reportFile := some (← fileName value) }
  hasVersion := false

private def readRun (scan : Scan RunOption Workload.Request) :
    List String → Except UsageError Workload.Request
  | [] => do return (← runGrammar.settle scan).settings
  | argument :: rest =>
    match Word.ofArgument argument with
    | .escape => match rest with
      | [] => do return (← runGrammar.settle scan).settings
      | _ :: _ => .error .unknownArgument
    | .long name value => do readRun (← runGrammar.readLong scan name value) rest
    | .short first => do readRun (← runGrammar.readShort scan first) rest
    | .plain => match scan.awaiting? with
      | some option => readRun { scan with pending := some (option, some argument) } rest
      | none => .error .unknownArgument

/-- The commands: to run a workload, and to explain a command. -/
private def commands : List String := ["run", "help"]

/-- Explaining a command shows help, if there is such a command. -/
private def readHelp : List String → UsageError
  | [] => .help
  | [command] => if command ∈ commands then .help else .unknownCommand
  | _ :: _ :: _ => .unknownCommand

private def withoutCommand (scan : Scan Log.Settings.Field Log.Settings) : UsageError :=
  match loggingGrammar.settle scan with
  | .error error => error
  | .ok scan => if scan.given = [] then .helpForNothing else .missingCommand

/-- Reads the options before the command. What follows the command is read before the last of them
is looked into. -/
private def readLogging (scan : Scan Log.Settings.Field Log.Settings) :
    List String → Except UsageError Arguments
  | [] => .error (withoutCommand scan)
  | argument :: rest =>
    if scan.awaiting?.isNone ∧ argument = "run" then do
      let request ← readRun { settings := {} } rest
      return ⟨(← loggingGrammar.settle scan).settings, request⟩
    else if scan.awaiting?.isNone ∧ argument = "help" then .error (readHelp rest)
    else match Word.ofArgument argument with
      | .escape => match rest with
        | [] => .error (withoutCommand scan)
        | next :: _ => .error (if next ∈ commands then .unknownArgument else .unknownCommand)
      | .long name value => do readLogging (← loggingGrammar.readLong scan name value) rest
      | .short first => do readLogging (← loggingGrammar.readShort scan first) rest
      | .plain => match scan.awaiting? with
        | some option => readLogging { scan with pending := some (option, some argument) } rest
        | none => .error .unknownCommand

def Arguments.parse (arguments : List String) : Except UsageError Arguments :=
  readLogging { settings := {} } arguments

end CoupledFs.CommandLine
