import CoupledFs.Host.Path
import CoupledFs.Log.Settings
import CoupledFs.Text.Blank

/-! The file that records go to. -/

namespace CoupledFs.Log

/-- What the program finds in its environment. -/
structure Environment where
  /-- The user's own directory. -/
  home : Option String := none
  /-- The directory for the user's data. -/
  data : Option String := home.map (Host.Path.join · ".local/share")
  /-- The directory for what need not be kept. -/
  temporary : String := "/tmp"
  /-- A filter that takes the place of the configured level. -/
  filter : Option String := none
  deriving Repr

/-- Where there is no directory for data, the user's own has to do, or else the temporary one. -/
def Environment.dataDirectory (environment : Environment) : String :=
  (environment.data <|> environment.home).getD environment.temporary

/-- Where a component logs when only logging to a file is asked for. -/
def standardFile (environment : Environment) (component : String) : String :=
  Host.Path.join (Host.Path.join environment.dataDirectory "memfs") (component ++ ".log")

namespace Settings

/-- The directory for log files, unless it is blank. -/
def usableDirectory? (settings : Settings) : Option String :=
  settings.directory.filter fun directory => !Text.isBlank directory

/-- The file to log to; without one, records go to the console. An absolute file stands for itself,
and a relative one is looked for in the directory. Where there is no usable directory, a file that
names a directory of its own stands for itself, and a bare name goes beside the standard file. -/
def location? (settings : Settings) (environment : Environment) (component : String) :
    Option String :=
  match settings.file, settings.usableDirectory? with
  | some file, directory =>
    if Host.Path.isAbsolute file then some file
    else match directory with
      | some directory => some (Host.Path.join directory file)
      | none =>
        if (Host.Path.parent? file).any (· ≠ "") then some file
        else some (Host.Path.withFileName (standardFile environment component) file)
  | none, some directory => some (Host.Path.join directory (component ++ ".log"))
  | none, none => settings.directory.map fun _ => standardFile environment component

end Settings

end CoupledFs.Log
