import CoupledFs.Json.Value

/-! Writing JSON values. -/

namespace CoupledFs.Json

def ascii (text : String) : List UInt8 :=
  text.toList.flatMap String.utf8EncodeChar

def inQuotes (literal : Literal) : List UInt8 :=
  0x22 :: literal.bytes ++ [0x22]

/-- How the parts of a container are laid out. -/
structure Layout where
  /-- What starts the line of a part at a given depth. -/
  lineStart : Nat → List UInt8
  /-- What stands between a name and its value. -/
  colon : List UInt8

namespace Layout

def compact : Layout := ⟨fun _ => [], [0x3A]⟩

/-- A line for every part, indented by two spaces for each level. -/
def indented : Layout := ⟨fun depth => 0x0A :: List.replicate (2 * depth) 0x20, [0x3A, 0x20]⟩

def enclose (layout : Layout) (depth : Nat) (first last : UInt8) :
    List (List UInt8) → List UInt8
  | [] => [first, last]
  | part :: parts =>
    let line (part : List UInt8) := layout.lineStart (depth + 1) ++ part
    first :: line part ++ (parts.flatMap fun part => 0x2C :: line part) ++
      layout.lineStart depth ++ [last]

end Layout

mutual

/-- The text of a value at a given depth. -/
def Value.write (layout : Layout) (depth : Nat) : Value → List UInt8
  | .null => ascii "null"
  | .bool true => ascii "true"
  | .bool false => ascii "false"
  | .number numeral => numeral
  | .text literal => inQuotes literal
  | .array items => layout.enclose depth 0x5B 0x5D (writeItems layout (depth + 1) items)
  | .object members => layout.enclose depth 0x7B 0x7D (writeMembers layout (depth + 1) members)

def writeItems (layout : Layout) (depth : Nat) : List Value → List (List UInt8)
  | [] => []
  | item :: items => item.write layout depth :: writeItems layout depth items

def writeMembers (layout : Layout) (depth : Nat) : List (Literal × Value) → List (List UInt8)
  | [] => []
  | (name, value) :: members =>
    (inQuotes name ++ layout.colon ++ value.write layout depth) ::
      writeMembers layout depth members

end

/-- The document of a value on one line. -/
def Value.compact (value : Value) : List UInt8 := value.write .compact 0

/-- The document of a value with a line for every part. -/
def Value.indented (value : Value) : List UInt8 := value.write .indented 0

end CoupledFs.Json
