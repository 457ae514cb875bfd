import CoupledFs.Text.Fields

/-! Options on a command line, each with a value behind it. -/

namespace CoupledFs.CommandLine

/-- Why a command line is not carried out. Asking for help is one of the reasons. -/
inductive UsageError where
  | help
  | version
  /-- Nothing at all was asked for. -/
  | helpForNothing
  | missingCommand
  | unknownCommand
  | unknownArgument
  /-- An option without a value, or with one that it does not offer. -/
  | invalidValue
  /-- A value that cannot be read as what the option wants. -/
  | unreadableValue
  /-- An option that was given before. -/
  | repeatedOption
  /-- A value for an option that takes none. -/
  | unwantedValue
  deriving DecidableEq, Repr

/-- What the form of an argument makes of it. -/
inductive Word where
  /-- Two dashes: no options follow. -/
  | escape
  | long (name : String) (value : Option String)
  | short (first : Char)
  | plain
  deriving DecidableEq, Repr

/-- The form of an argument. A single dash is a plain word. -/
def Word.ofArgument (argument : String) : Word :=
  match argument.toList with
  | ['-', '-'] => escape
  | '-' :: '-' :: rest =>
    let name := String.ofList (rest.takeWhile (· ≠ '='))
    match rest.dropWhile (· ≠ '=') with
    | [] => long name none
    | _ :: value => long name (some (String.ofList value))
  | '-' :: first :: _ => short first
  | _ => plain

/-- The options of a command: their names, and what a value of each does to the settings. -/
structure Grammar (φ σ : Type) where
  option? : String → Option φ
  assign : φ → String → σ → Except UsageError σ
  /-- Whether the command tells its version. -/
  hasVersion : Bool

/-- How far the options of a command have been read. -/
structure Scan (φ σ : Type) where
  settings : σ
  given : List φ := []
  /-- The latest option, with its value as soon as that has been found. It is looked into only when
  the next option or the end is reached. -/
  pending : Option (φ × Option String) := none

namespace Grammar

variable {φ σ : Type} [DecidableEq φ]

/-- Gives an option its value. -/
def take (grammar : Grammar φ σ) (scan : Scan φ σ) (option : φ) (value : String) :
    Except UsageError (Scan φ σ) := do
  if option ∈ scan.given then
    throw .repeatedOption
  return { settings := ← grammar.assign option value scan.settings, given := option :: scan.given }

/-- Looks into the latest option. -/
def settle (grammar : Grammar φ σ) (scan : Scan φ σ) : Except UsageError (Scan φ σ) :=
  match scan.pending with
  | none => .ok scan
  | some (_, none) => .error .invalidValue
  | some (option, some value) => grammar.take { scan with pending := none } option value

def readLong (grammar : Grammar φ σ) (scan : Scan φ σ) (name : String) (value : Option String) :
    Except UsageError (Scan φ σ) :=
  match grammar.option? name with
  | some option => do
    let scan ← grammar.settle scan
    match value with
    | some value => grammar.take scan option value
    | none => return { scan with pending := some (option, none) }
  | none =>
    let showing : Option UsageError :=
      if name = "help" then some .help
      else if name = "version" ∧ grammar.hasVersion then some .version
      else none
    match showing, value with
    | none, _ => .error .unknownArgument
    | some _, some _ => .error .unwantedValue
    | some shown, none => do
      discard <| grammar.settle scan
      throw shown

/-- Reads options from their short names, of which the first decides: all of them only show
something. -/
def readShort (grammar : Grammar φ σ) (scan : Scan φ σ) (first : Char) :
    Except UsageError (Scan φ σ) := do
  if first = 'h' then
    discard <| grammar.settle scan
    throw .help
  if first = 'V' ∧ grammar.hasVersion then
    discard <| grammar.settle scan
    throw .version
  throw .unknownArgument

end Grammar

namespace Scan

variable {φ σ : Type}

/-- The option that a plain word would be the value of. -/
def awaiting? (scan : Scan φ σ) : Option φ :=
  match scan.pending with
  | some (option, none) => some option
  | _ => none

end Scan

end CoupledFs.CommandLine
