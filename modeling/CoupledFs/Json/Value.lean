import CoupledFs.Json.Token

/-! JSON values, reading them and writing them. -/

namespace CoupledFs.Json

/-- A value. Numerals and text stay as they are written, since whoever wants one decides what it
may be; members keep their order and may repeat a name. -/
inductive Value where
  | null
  | bool (value : Bool)
  | number (numeral : List UInt8)
  | text (literal : Literal)
  | array (items : List Value)
  | object (members : List (Literal × Value))
  deriving Repr

/-- A container that is still being read, with what it holds so far in reverse. -/
inductive Frame where
  | array (items : List Value)
  /-- An object whose member `name` comes next. -/
  | object (members : List (Literal × Value)) (name : Literal)
  deriving Repr

/-- What a reader has read and what may come next. -/
inductive Reading where
  | wantsValue (outer : List Frame)
  /-- Right behind the start of an array. -/
  | inArray (outer : List Frame)
  /-- Right behind the start of an object. -/
  | inObject (outer : List Frame)
  /-- Behind a comma in an object. -/
  | wantsName (members : List (Literal × Value)) (outer : List Frame)
  | wantsColon (members : List (Literal × Value)) (name : Literal) (outer : List Frame)
  | complete (value : Value) (outer : List Frame)
  deriving Repr

namespace Reading

def startValue (outer : List Frame) : Token → Option Reading
  | .openArray => some (inArray outer)
  | .openObject => some (inObject outer)
  | .null => some (complete .null outer)
  | .bool value => some (complete (.bool value) outer)
  | .number numeral => some (complete (.number numeral) outer)
  | .text literal => some (complete (.text literal) outer)
  | .closeArray | .closeObject | .comma | .colon => none

def step : Reading → Token → Option Reading
  | wantsValue outer, token => startValue outer token
  | inArray outer, .closeArray => some (complete (.array []) outer)
  | inArray outer, token => startValue (.array [] :: outer) token
  | inObject outer, .closeObject => some (complete (.object []) outer)
  | inObject outer, .text name => some (wantsColon [] name outer)
  | wantsName members outer, .text name => some (wantsColon members name outer)
  | wantsColon members name outer, .colon => some (wantsValue (.object members name :: outer))
  | complete value (.array items :: outer), .comma =>
    some (wantsValue (.array (value :: items) :: outer))
  | complete value (.array items :: outer), .closeArray =>
    some (complete (.array (value :: items).reverse) outer)
  | complete value (.object members name :: outer), .comma =>
    some (wantsName ((name, value) :: members) outer)
  | complete value (.object members name :: outer), .closeObject =>
    some (complete (.object ((name, value) :: members).reverse) outer)
  | _, _ => none

/-- The value that has been read, if nothing is missing from it. -/
def value? : Reading → Option Value
  | complete value [] => some value
  | _ => none

end Reading

/-- Reads a document that holds one value. Nesting may go to any depth. -/
def read? (document : List UInt8) : Option Value := do
  (← (← tokens document).foldlM Reading.step (.wantsValue [])).value?

namespace Value

def ofString (text : String) : Value := .text (.encode text)

def ofNat (n : Nat) : Value :=
  .number ((Nat.toDigits 10 n).flatMap String.utf8EncodeChar)

def ofMembers (members : List (String × Value)) : Value :=
  .object (members.map fun (name, value) => (.encode name, value))

def string? : Value → Option String
  | text literal => literal.decode?
  | _ => none

def bool? : Value → Option Bool
  | bool value => some value
  | _ => none

/-- The number that a value is, if it is below `bound` and written with digits alone. -/
def natBelow? (bound : Nat) : Value → Option Nat
  | number numeral =>
    if numeral.all fun b => 0x30 ≤ b && b ≤ 0x39 then
      some (numeral.foldl (fun n b => 10 * n + (b.toNat - 0x30)) 0) |>.filter (· < bound)
    else none
  | _ => none

/-- The items of an array, each read by `item`. -/
def list? (item : Value → Option α) : Value → Option (List α)
  | array items => items.mapM item
  | _ => none

/-- A value that may be left open by `null`. -/
def option? (inner : Value → Option α) : Value → Option (Option α)
  | null => some none
  | value => (inner value).map some

/-- One of several words, written as a text or as an object with that word as its only name and
`null` as its value. -/
def choice? (ofWord : String → Option α) : Value → Option α
  | text literal => literal.decode?.bind ofWord
  | object [(name, null)] => name.decode?.bind ofWord
  | _ => none

end Value

end CoupledFs.Json
