import CoupledFs.Config
import CoupledFs.Json.Print

/-! Configurations as JSON documents. A document needs to give only the fields in which it differs
from the usual configuration for unix paths. -/

namespace CoupledFs

def PathStyle.ofWord? : String → Option PathStyle
  | "unix" => some unix
  | "windows" => some windows
  | _ => none

def PathStyle.word : PathStyle → String
  | unix => "unix"
  | windows => "windows"

def AttributeView.ofWord? : String → Option AttributeView
  | "basic" => some basic
  | "posix" => some posix
  | _ => none

namespace Config

/-- The fields of a configuration. -/
inductive Field where
  | pathStyle
  | roots
  | storeName
  | readOnly
  | views
  | directoryMode
  | fileMode
  | owner
  | group
  | users
  | groups
  deriving DecidableEq, Repr

namespace Field

/-- All fields, in the order in which a document without names lists them. -/
def all : List Field :=
  [pathStyle, roots, storeName, readOnly, views, directoryMode, fileMode, owner, group, users,
    groups]

def name : Field → String
  | pathStyle => "path_style"
  | roots => "roots"
  | storeName => "store_name"
  | readOnly => "read_only"
  | views => "attribute_views"
  | directoryMode => "default_directory_mode"
  | fileMode => "default_file_mode"
  | owner => "owner"
  | group => "group"
  | users => "users"
  | groups => "groups"

def ofName? (name : String) : Option Field :=
  all.find? (·.name = name)

def mode? (value : Json.Value) : Option UInt32 :=
  (value.natBelow? UInt32.size).map UInt32.ofNat

def texts? : Json.Value → Option (List String) := Json.Value.list? Json.Value.string?

/-- The configuration with one field read from a value. -/
def assign? (config : Config) (value : Json.Value) : Field → Option Config
  | pathStyle => do return { config with pathStyle := ← value.choice? PathStyle.ofWord? }
  | roots => do return { config with roots := ← value.option? texts? }
  | storeName => do return { config with storeName := ← value.string? }
  | readOnly => do return { config with readOnly := ← value.bool? }
  | views => do
    return { config with views := ← value.list? (Json.Value.choice? AttributeView.ofWord?) }
  | directoryMode => do return { config with directoryMode := ← mode? value }
  | fileMode => do return { config with fileMode := ← mode? value }
  | owner => do return { config with owner := ← value.string? }
  | group => do return { config with group := ← value.string? }
  | users => do return { config with users := ← texts? value }
  | groups => do return { config with groups := ← texts? value }

def ofTexts (texts : List String) : Json.Value :=
  .array (texts.map .ofString)

def value (config : Config) : Field → Json.Value
  | pathStyle => .ofString config.pathStyle.word
  | roots => (config.roots.map ofTexts).getD .null
  | storeName => .ofString config.storeName
  | readOnly => .bool config.readOnly
  | views => ofTexts (config.views.map AttributeView.name)
  | directoryMode => .ofNat config.directoryMode.toNat
  | fileMode => .ofNat config.fileMode.toNat
  | owner => .ofString config.owner
  | group => .ofString config.group
  | users => ofTexts config.users
  | groups => ofTexts config.groups

end Field

/-- Reads the members of an object one after the other. Names that no field has are skipped, and
no field may be given twice. -/
def readMembers (config : Config) (given : List Field) :
    List (Json.Literal × Json.Value) → Option Config
  | [] => some config
  | (name, value) :: members => do
    match Field.ofName? (← name.decode?) with
    | none => readMembers config given members
    | some field =>
      if field ∈ given then none
      else readMembers (← field.assign? config value) (field :: given) members

/-- Reads values for the given fields in their order; fields may be left over, values not. -/
private def readItems (config : Config) : List Field → List Json.Value → Option Config
  | _, [] => some config
  | [], _ :: _ => none
  | field :: fields, value :: values => do readItems (← field.assign? config value) fields values

/-- The configuration with the fields that a value gives in place of its own: an object of fields,
or an array of their values in order. -/
def overlay? (config : Config) : Json.Value → Option Config
  | .object members => readMembers config [] members
  | .array items => readItems config Field.all items
  | _ => none

/-- The value that describes a configuration, with every field. -/
def toValue (config : Config) : Json.Value :=
  .ofMembers (Field.all.map fun field => (field.name, field.value config))

/-- Reads a document and refuses what `validate` refuses. -/
def ofDocument (document : List UInt8) : Except FsError Config :=
  match (Json.read? document).bind unix.overlay? with
  | none => .error (.configuration "the document does not describe a file system")
  | some config => do
    config.validate
    return config

def toDocument (config : Config) : List UInt8 :=
  config.toValue.compact

end Config

end CoupledFs
