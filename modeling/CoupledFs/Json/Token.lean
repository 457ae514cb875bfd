import CoupledFs.Json.Literal

/-! The tokens of a JSON document. -/

namespace CoupledFs.Json

/-- A token. Numerals are kept as they are written. -/
inductive Token where
  | openArray
  | closeArray
  | openObject
  | closeObject
  | comma
  | colon
  | null
  | bool (value : Bool)
  | number (numeral : List UInt8)
  | text (literal : Literal)
  deriving DecidableEq, Repr

/-- How far a numeral has been read. -/
inductive NumeralStage where
  | sign
  | zero
  | integer
  | point
  | fraction
  | exponent
  | exponentSign
  | exponentDigits
  deriving DecidableEq, Repr

namespace NumeralStage

def isDigitByte (b : UInt8) : Bool := 0x30 ≤ b && b ≤ 0x39

/-- Whether a numeral may end here. -/
def isComplete : NumeralStage → Bool
  | zero | integer | fraction | exponentDigits => true
  | sign | point | exponent | exponentSign => false

def start? (b : UInt8) : Option NumeralStage :=
  if b = 0x2D then some sign
  else if b = 0x30 then some zero
  else if isDigitByte b then some integer
  else none

/-- What may follow the digits before the point. -/
def leaveInteger? (b : UInt8) : Option NumeralStage :=
  if b = 0x2E then some point
  else if b = 0x65 ∨ b = 0x45 then some exponent
  else none

/-- The stage after another byte, if that byte belongs to the numeral. -/
def next? (stage : NumeralStage) (b : UInt8) : Option NumeralStage :=
  match stage with
  | sign => if b = 0x30 then some zero else if isDigitByte b then some integer else none
  | zero => leaveInteger? b
  | integer => if isDigitByte b then some integer else leaveInteger? b
  | point => if isDigitByte b then some fraction else none
  | fraction =>
    if isDigitByte b then some fraction
    else if b = 0x65 ∨ b = 0x45 then some exponent
    else none
  | exponent =>
    if isDigitByte b then some exponentDigits
    else if b = 0x2B ∨ b = 0x2D then some exponentSign
    else none
  | exponentSign | exponentDigits => if isDigitByte b then some exponentDigits else none

end NumeralStage

/-- Where a scan stands. What has been read of the current token is kept in reverse. -/
inductive Scan where
  | between
  /-- Inside a word of which `rest` is still to come. -/
  | word (rest : List UInt8) (token : Token)
  | number (written : List UInt8) (stage : NumeralStage)
  | text (written : List UInt8)
  /-- Behind a backslash. -/
  | escape (written : List UInt8)
  /-- Inside an escape of four hexadecimal digits, with `left` of them still to come after this
  one. -/
  | hex (written : List UInt8) (left : Nat)
  deriving DecidableEq, Repr

namespace Scan

/-- Space, tab and the two line ends. -/
def isSpaceByte (b : UInt8) : Bool :=
  b = 0x20 || b = 0x09 || b = 0x0A || b = 0x0D

/-- What a byte between tokens starts or is. -/
def start? (b : UInt8) : Option (Scan × List Token) :=
  if isSpaceByte b then some (between, [])
  else if b = 0x22 then some (text [], [])
  else if b = 0x5B then some (between, [.openArray])
  else if b = 0x5D then some (between, [.closeArray])
  else if b = 0x7B then some (between, [.openObject])
  else if b = 0x7D then some (between, [.closeObject])
  else if b = 0x2C then some (between, [.comma])
  else if b = 0x3A then some (between, [.colon])
  else if b = 0x6E then some (word [0x75, 0x6C, 0x6C] .null, [])
  else if b = 0x74 then some (word [0x72, 0x75, 0x65] (.bool true), [])
  else if b = 0x66 then some (word [0x61, 0x6C, 0x73, 0x65] (.bool false), [])
  else (NumeralStage.start? b).map fun stage => (number [b] stage, [])

/-- The effect of one byte: where the scan stands then, and the tokens that ended. -/
def step (scan : Scan) (b : UInt8) : Option (Scan × List Token) :=
  match scan with
  | between => start? b
  | word [] _ => none
  | word [last] token => if b = last then some (between, [token]) else none
  | word (next :: rest) token => if b = next then some (word rest token, []) else none
  | number written stage =>
    match stage.next? b with
    | some stage => some (number (b :: written) stage, [])
    | none =>
      if stage.isComplete then
        (start? b).map fun (scan, tokens) => (scan, .number written.reverse :: tokens)
      else none
  | text written =>
    if b = 0x22 then some (between, [.text ⟨written.reverse⟩])
    else if b = 0x5C then some (escape (b :: written), [])
    else if b < 0x20 then none
    else some (text (b :: written), [])
  | escape written =>
    if b = 0x75 then some (hex (b :: written) 3, [])
    else if (Literal.shortEscape? b).isSome then some (text (b :: written), [])
    else none
  | hex written left =>
    if (Literal.hexValue? b).isSome then
      match left with
      | 0 => some (text (b :: written), [])
      | left + 1 => some (hex (b :: written) left, [])
    else none

/-- The tokens that the end of the document ends. -/
def finish : Scan → Option (List Token)
  | between => some []
  | number written stage =>
    if stage.isComplete then some [.number written.reverse] else none
  | _ => none

/-- The tokens of the rest of a document. -/
def run (scan : Scan) : List UInt8 → Option (List Token)
  | [] => scan.finish
  | b :: rest => do
    let (scan, tokens) ← scan.step b
    return tokens ++ (← run scan rest)

end Scan

def tokens (document : List UInt8) : Option (List Token) :=
  Scan.between.run document

end CoupledFs.Json
