import CoupledFs.CommandLine.Program

/-! The workload program as a command. -/

namespace CoupledFs.CommandLine

/-- What a refusal of the machine has to do with the path, if anything. -/
private def failureOf? : IO.Error → Option Host.Failure
  | .noFileOrDirectory .. => some .notFound
  | .alreadyExists .. => some .alreadyExists
  | .inappropriateType _ code _ =>
    if code = 20 then some .notADirectory else if code = 21 then some .isADirectory else none
  | .invalidArgument _ code _ => if code = 36 then some .nameTooLong else none
  | _ => none

private def refusalOf (error : IO.Error) : Host.Refusal :=
  match failureOf? error with
  | some failure => .failure failure
  | none => .other error.toString

/-- Does something with a path. The machine is not asked about a path that it cannot even be told. -/
private def attempt (path : String) (action : IO α) : IO (Except Host.Refusal α) := do
  if '\x00' ∈ path.toList then
    return .error (.failure .nulInPath)
  try
    return .ok (← action)
  catch error =>
    return .error (refusalOf error)

private def bytes (list : List UInt8) : ByteArray := ⟨list.toArray⟩

private def writeWith (mode : IO.FS.Mode) (path : String) (content : List UInt8) : IO Unit := do
  let handle ← IO.FS.Handle.mk path mode
  handle.write (bytes content)

instance : Host IO Host.Refusal where
  refusal := id
  readFile path := attempt path do
    return (← IO.FS.readBinFile path).toList
  createDirectories path := attempt path do
    if path ≠ "" then
      IO.FS.createDirAll path
  appendFile path content := attempt path (writeWith .append path content)
  writeFile path content := attempt path (writeWith .write path content)
  milliseconds := IO.monoMsNow

/-- What the variables of the environment say. An empty one does not name the user's own directory,
and a relative one not the directory for data. -/
private def environment : IO Log.Environment := do
  let home := (← IO.getEnv "HOME").filter (· ≠ "")
  let data := (← IO.getEnv "XDG_DATA_HOME").filter Host.Path.isAbsolute
  return {
    home
    data := data <|> home.map (Host.Path.join · ".local/share")
    temporary := (← IO.getEnv "TMPDIR").getD "/tmp"
    filter := ← IO.getEnv "RUST_LOG" }

end CoupledFs.CommandLine

open CoupledFs CoupledFs.CommandLine in
/-- Runs the program with the settings of its environment. -/
def main (arguments : List String) : IO UInt32 := do
  let outcome ← runProgram (← environment) arguments
  (← IO.getStdout).write ⟨outcome.output.toArray⟩
  let stderr ← IO.getStderr
  stderr.write ⟨outcome.console.toArray⟩
  if let some complaint := outcome.complaint then
    stderr.putStrLn complaint.render
  return outcome.exitCode.toUInt32
