import CoupledFs.Json.Print
import CoupledFs.Log.Level

/-! How a program is told to log. -/

namespace CoupledFs.Log

/-- How records are written. -/
inductive Format where
  | plaintext
  | json
  deriving DecidableEq, Repr

namespace Format

/-- The name of a format. -/
def word : Format → String
  | plaintext => "plaintext"
  | json => "json"

/-- The format of a given name. -/
def ofWord? : String → Option Format
  | "plaintext" => some plaintext
  | "json" => some json
  | _ => none

end Format

/-- What has been said about logging. Records go to the console unless a directory or a file is
named. -/
structure Settings where
  level : Option Level := none
  format : Option Format := none
  directory : Option String := none
  file : Option String := none
  deriving DecidableEq, Repr

namespace Settings

/-- The fields of the settings. -/
inductive Field where
  | level
  | format
  | directory
  | file
  deriving DecidableEq, Repr

namespace Field

/-- All fields, in the order in which a document without names lists them. -/
def all : List Field := [level, format, directory, file]

def name : Field → String
  | level => "log-level"
  | format => "log-format"
  | directory => "log-dir"
  | file => "log-file"

def ofName? (name : String) : Option Field :=
  all.find? (·.name = name)

/-- The settings with one field read from a value, where `null` leaves it open. -/
def assign? (settings : Settings) (value : Json.Value) : Field → Option Settings
  | level => do
    return { settings with level := ← value.option? (Json.Value.choice? Level.ofWord?) }
  | format => do
    return { settings with format := ← value.option? (Json.Value.choice? Format.ofWord?) }
  | directory => do
    return { settings with directory := ← value.option? Json.Value.string? }
  | file => do return { settings with file := ← value.option? Json.Value.string? }

/-- The text of a field, if it has been set. -/
def text? (settings : Settings) : Field → Option String
  | level => settings.level.map Level.word
  | format => settings.format.map Format.word
  | directory => settings.directory
  | file => settings.file

end Field

private def readFields (settings : Settings) (given : List Field) :
    List (Json.Literal × Json.Value) → Option Settings
  | [] => some settings
  | (name, value) :: members => do
    match Field.ofName? (← name.decode?) with
    | none => readFields settings given members
    | some field =>
      if field ∈ given then none
      else readFields (← field.assign? settings value) (field :: given) members

/-- The settings that a value describes: an object of fields, or an array of all four. -/
def ofValue? : Json.Value → Option Settings
  | .object members => readFields {} [] members
  | .array [level, format, directory, file] => do
    let settings ← Field.level.assign? {} level
    let settings ← Field.format.assign? settings format
    let settings ← Field.directory.assign? settings directory
    Field.file.assign? settings file
  | _ => none

def ofDocument? (document : List UInt8) : Option Settings :=
  (Json.read? document).bind ofValue?

/-- The value that describes the settings, without the fields that are open. -/
def toValue (settings : Settings) : Json.Value :=
  .ofMembers (Field.all.filterMap fun field =>
    (field.text? settings).map fun text => (field.name, .ofString text))

end Settings

end CoupledFs.Log
