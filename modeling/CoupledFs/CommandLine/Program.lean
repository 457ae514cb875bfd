import CoupledFs.CommandLine.Arguments
import CoupledFs.Host
import CoupledFs.Log.Filter
import CoupledFs.Log.Location
import CoupledFs.Log.Render

/-! The workload program, on any machine that has files. -/

namespace CoupledFs.CommandLine

/-- How the program ends. -/
structure Outcome where
  exitCode : Nat
  /-- What goes to the standard output. -/
  output : List UInt8 := []
  /-- The log lines for the console. -/
  console : List UInt8 := []
  complaint : Option Complaint := none

/-- The name of the program, under which it logs. -/
def component : String := "memfs-stress"

/-- How the program is called. -/
def usage : String :=
  "Usage: memfs-stress [--log-level LEVEL] [--log-format FORMAT] [--log-dir DIR] " ++
    "[--log-file FILE] run [--threads N] [--depth N] [--fanout N] [--config FILE] " ++
    "[--path-style STYLE] [--json-output FILE]\n"

private def utf8 (text : String) : List UInt8 :=
  text.toList.flatMap String.utf8EncodeChar

namespace UsageError

/-- What is said about a command line that is not carried out. -/
def text : UsageError → String
  | .help => usage
  | .version => "memfs-stress 0.1.0\n"
  | .helpForNothing => usage
  | .missingCommand => "error: a command is required\n" ++ usage
  | .unknownCommand => "error: unrecognized command\n" ++ usage
  | .unknownArgument => "error: unexpected argument\n" ++ usage
  | .invalidValue => "error: a value is missing or not one of those possible\n" ++ usage
  | .unreadableValue => "error: a value cannot be read\n" ++ usage
  | .repeatedOption => "error: an option is given twice\n" ++ usage
  | .unwantedValue => "error: an option takes no value\n" ++ usage

/-- Help and version are answers; everything else is a mistake. -/
def outcome (error : UsageError) : Outcome :=
  match error with
  | .help | .version => { exitCode := 0, output := utf8 error.text }
  | _ => { exitCode := 2, console := utf8 error.text }

end UsageError

private def failed (complaint : Complaint) (output console : List UInt8) : Outcome :=
  { exitCode := 1, output, console, complaint := some complaint }

/-- The end of a program that cannot say what to log. -/
private def brokenOff : Outcome :=
  { exitCode := 101, console := utf8 "a directive of the log filter is torn\n" }

private def hostComplaint (refusal : Host.Refusal) : Complaint :=
  ⟨refusal.message, []⟩

section

variable {m : Type → Type} {ε : Type} [Monad m] [Host m ε]

/-- Makes sure that records can be written to a file, together with the directories above it. -/
def openLog (file : String) : m (Except ε Unit) := do
  match ← Host.createDirectories ((Host.Path.parent? file).getD "") with
  | .error failure => return .error failure
  | .ok () => Host.appendFile file []

/-- Runs the workload, and writes its report to a file if that was asked for and then to the
standard output. -/
private def runRequest (request : Workload.Request) (log : Array Log.Record → m (List UInt8)) :
    m Outcome := do
  let content ← match request.config with
    | some file => Except.mapError (Host.refusal m) <$> Host.readFile file
    | none => pure (.error .notFound)
  let started ← Host.milliseconds (m := m)
  let (answer, records) := Workload.run request fun _ => content
  let elapsed := (← Host.milliseconds (m := m)) - started
  match answer with
  | .error complaint => return failed complaint [] (← log records)
  | .ok report =>
    let console ← log (records.push ⟨report.finished elapsed, none⟩)
    let document := (report.toValue elapsed).indented
    let written ← match request.reportFile with
      | some file => (Except.mapError fun failure =>
          (hostComplaint (Host.refusal m failure)).within ("failed to create report " ++ file)) <$>
            Host.writeFile file document
      | none => pure (.ok ())
    match written with
    | .error complaint => return failed complaint [] console
    | .ok () =>
      let output := document ++ [0x0A]
      if report.passed then return { exitCode := 0, output, console }
      else return failed report.complaint output console

def runProgram (environment : Log.Environment) (arguments : List String) : m Outcome := do
  match Arguments.parse arguments with
  | .error error => return error.outcome
  | .ok arguments =>
    let settings := arguments.logging
    let lines (filter : Log.Filter) (records : Array Log.Record) : List UInt8 :=
      (records.filter filter.keeps).toList.flatMap (·.line (settings.format.getD .plaintext))
    let file? := settings.location? environment component
    let opened ← match file? with
      | some file => openLog file
      | none => pure (.ok ())
    match opened,
      Log.Filter.choose environment.filter component (settings.level.getD .info), file? with
    | .error failure, _, _ => return failed (hostComplaint (Host.refusal m failure)) [] []
    | .ok (), .error _, _ => return brokenOff
    | .ok (), .ok filter, none =>
      runRequest arguments.request fun records => return lines filter records
    | .ok (), .ok filter, some file =>
      runRequest arguments.request fun records => do
        discard <| Host.appendFile file (lines filter records)
        return []

end

end CoupledFs.CommandLine
