import CoupledFs.Log.Record
import CoupledFs.Pattern.Parse
import CoupledFs.Pattern.Search
import CoupledFs.Text.Alphanumeric
import CoupledFs.Text.Blank
import CoupledFs.Text.Decimal
import CoupledFs.Text.Fields

/-! Directives of a filter. Each sets how unimportant a record may be, for a source, for a kind of
request, or for both. -/

namespace CoupledFs.Log

/-- What the value of a field has to be. -/
inductive FieldTest where
  /-- A number or a truth value, which no field of a request is. -/
  | never
  /-- A text whose first match of a pattern reaches to its end. -/
  | text (source : String) (automaton : Pattern.Automaton)
  deriving DecidableEq, Repr

namespace FieldTest

/-- Reads a test. -/
def parse? (source : String) : Option FieldTest :=
  if source ∈ ["true", "false"] || Text.isReal source then some never
  else (Pattern.parse? source).map fun pattern => text source (.ofPattern pattern)

/-- Whether a value passes. -/
def accepts : FieldTest → FieldValue → Bool
  | text _ automaton, .text value => automaton.matchesUpToEnd value
  | _, _ => false

end FieldTest

/-- One directive of a filter. -/
structure Directive where
  /-- The rank up to which records are kept; zero keeps none. -/
  rank : Nat := Level.trace.rank
  /-- What the source has to start with. -/
  source : Option String := none
  /-- The request that a record has to be in. -/
  operation : Option String := none
  /-- A field that the record or the request has to have, and perhaps what its value has to be. -/
  field : Option (String × Option FieldTest) := none
  deriving DecidableEq, Repr

/-- Why a directive is not understood. -/
inductive Directive.Fault where
  | unreadable
  /-- A part of the directive begins or ends within a character. -/
  | torn
  deriving DecidableEq, Repr

namespace Directive

/-- The rank that a word stands for: the name of a level in any case, `off`, or a number. -/
def rank? (word : String) : Option Nat :=
  match Text.natural? Level.trace.rank word with
  | some rank => some rank
  | none =>
    if word.toLower = "off" then some 0
    else (Level.ofWord? word.toLower).map Level.rank

/-- What the next mark in a directive ends, with the distance at which that began. -/
inductive Part where
  | nothing
  /-- A level or a source. -/
  | word (first : Nat)
  | operation (first : Nat)
  | field (first : Nat)
  /-- Behind the brace that closes a field. -/
  | behindField
  /-- Behind the bracket that closes a request. -/
  | behindRequest
  | level (first : Nat)
  deriving DecidableEq, Repr

/-- A directive in the middle of being read. -/
structure Reading where
  directive : Directive := {}
  part : Part := .nothing
  deriving Repr

namespace Reading

private def orTorn (text : Option (List Char)) : Except Fault String :=
  match text with
  | some text => .ok (String.ofList text)
  | none => .error .torn

private def orUnreadable (value : Option α) : Except Fault α :=
  match value with
  | some a => .ok a
  | none => .error .unreadable

/-- Reads a field: a name, or a name and a value behind an equals sign. -/
private def fieldOf (body : String) : Except Fault (String × Option FieldTest) := do
  match Text.fields (· = '=') body with
  | name :: value :: _ =>
    if body = "" then throw .unreadable
    return (name, some (← orUnreadable (FieldTest.parse? value)))
  | _ => if body = "" then throw .unreadable else return (body, none)

/-- The effect of the character at a given distance on the reading of `whole`. -/
private def step (whole : List Char) (reading : Reading) (offset : Nat) (c : Char) :
    Except Fault Reading := do
  let directive := reading.directive
  let ending (first : Nat) := orTorn (Text.cut? first offset whole)
  match reading.part with
  | .nothing =>
    if c = '[' then return { reading with part := .operation (offset + 1) }
    else if c ∈ ['-', ':', '_'] || Text.isAlphanumeric c then
      return { reading with part := .word offset }
    else throw .unreadable
  | .word first =>
    if c = '=' then
      return ⟨{ directive with source := some (← ending first) }, .level (offset + 1)⟩
    else if c = '[' then
      return ⟨{ directive with source := some (← ending first) }, .operation (offset + 1)⟩
    else return reading
  | .operation first =>
    if c = ']' then
      return ⟨{ directive with operation := some (← ending first) }, .behindRequest⟩
    else if c = Char.ofNat 0x7B then
      let name ← ending first
      let operation := if name = "" then none else some name
      return ⟨{ directive with operation }, .field (offset + 1)⟩
    else return reading
  | .field first =>
    if c = Char.ofNat 0x7D then
      let field ← fieldOf (← ending first)
      return ⟨{ directive with field := some field }, .behindField⟩
    else return reading
  | .behindField =>
    if c = ']' then return { reading with part := .behindRequest } else throw .unreadable
  | .behindRequest =>
    if c = '=' then return { reading with part := .level (offset + 1) } else throw .unreadable
  | .level _ => return reading

private def readFrom (whole : List Char) (reading : Reading) (offset : Nat) :
    List Char → Except Fault Reading
  | [] => .ok reading
  | c :: rest => do readFrom whole (← reading.step whole offset c) (offset + c.utf8Size) rest

/-- The directive at the end of `whole`. A single word that names no level is a source of which
everything is kept, and so does a level that is left out. -/
private def finish (whole : List Char) (reading : Reading) : Except Fault Directive := do
  match reading.part with
  | .word first =>
    let word ← orTorn (Text.dropBytes? first whole)
    match rank? word with
    | some rank => return { reading.directive with rank }
    | none => return { reading.directive with source := some word }
  | .level first =>
    let word ← orTorn (Text.dropBytes? first whole)
    if word = "" then return reading.directive
    return { reading.directive with rank := ← orUnreadable (rank? word) }
  | .behindRequest => return reading.directive
  | .nothing | .operation _ | .field _ | .behindField => throw .unreadable

end Reading

/-- Reads a directive. Marks are looked for behind the white space at its start, but the distances at
which they are found are counted off from the very start: white space displaces every part. -/
def parse (text : String) : Except Fault Directive := do
  let whole := text.toList
  let reading ← ({} : Reading).readFrom whole 0 (Text.trim text).toList
  reading.finish whole

/-- Whether two directives differ in nothing but the rank that they set. -/
def sameSubject (a b : Directive) : Bool :=
  a.source = b.source && a.operation = b.operation && a.field = b.field

/-- Whether a directive can only be decided inside a request. -/
def isDynamic (directive : Directive) : Bool :=
  directive.operation.isSome || directive.field.isSome

/-- Whether a directive can be decided without looking at a request or at the value of a field. -/
def isStatic (directive : Directive) : Bool :=
  directive.operation.isNone && directive.field.all (·.2.isNone)

private def matchesSource (directive : Directive) (source : String) : Bool :=
  directive.source.all fun start => start.toList.isPrefixOf source.toList

/-- Whether a static directive speaks about an event. -/
def appliesToEvent (directive : Directive) (event : Event) : Bool :=
  directive.matchesSource event.source &&
    directive.field.all fun (name, _) => name = "message" || (event.fields.lookup name).isSome

/-- Whether a directive speaks about what happens inside a request. -/
def appliesToSpan (directive : Directive) (span : Span) : Bool :=
  directive.matchesSource Span.source &&
    directive.operation.all (· = span.operation) &&
    directive.field.all fun (name, test) =>
      match span.fields.lookup name with
      | none => false
      | some value => test.all (·.accepts value)

/-- Whether the second directive is at least as specific as the first: a longer source, then a
field rather than none, then a later name of it. -/
def yieldsTo (a b : Directive) : Bool :=
  let size (d : Directive) : Nat := (d.source.map fun s => s.utf8ByteSize + 1).getD 0
  if size a ≠ size b then size a < size b
  else match a.field, b.field with
    | none, _ => true
    | some _, none => false
    | some (nameA, _), some (nameB, _) => nameA ≤ nameB

end Directive

end CoupledFs.Log
