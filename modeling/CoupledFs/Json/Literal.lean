/-! Text as it is written between the quotes of a JSON document. -/

namespace CoupledFs.Json

/-- The bytes between two quotes. A reader that does not need the text may skip it without
finding out whether it denotes one. -/
structure Literal where
  bytes : List UInt8
  deriving DecidableEq, Repr

namespace Literal

def hexValue? (b : UInt8) : Option Nat :=
  if 0x30 ≤ b ∧ b ≤ 0x39 then some (b.toNat - 0x30)
  else if 0x41 ≤ b ∧ b ≤ 0x46 then some (b.toNat - 0x41 + 10)
  else if 0x61 ≤ b ∧ b ≤ 0x66 then some (b.toNat - 0x61 + 10)
  else none

def hexUnit? (a b c d : UInt8) : Option Nat := do
  return ((← hexValue? a) * 16 + (← hexValue? b)) * 256 + (← hexValue? c) * 16 + (← hexValue? d)

def shortEscape? (b : UInt8) : Option UInt8 :=
  if b = 0x22 ∨ b = 0x5C ∨ b = 0x2F then some b
  else if b = 0x62 then some 0x08
  else if b = 0x66 then some 0x0C
  else if b = 0x6E then some 0x0A
  else if b = 0x72 then some 0x0D
  else if b = 0x74 then some 0x09
  else none

/-- The code point of two surrogates, the higher one first. -/
def pairedUnits? (high low : Nat) : Option Nat :=
  if 0xDC00 ≤ low ∧ low ≤ 0xDFFF then some (0x10000 + (high - 0xD800) * 0x400 + (low - 0xDC00))
  else none

def encoded (codePoint : Nat) : List UInt8 :=
  String.utf8EncodeChar (Char.ofNat codePoint)

/-- Resolves the escapes of a literal. A surrogate has to be half of a pair. -/
def unescape : List UInt8 → Option (List UInt8)
  | [] => some []
  | 0x5C :: 0x75 :: a :: b :: c :: d :: rest => do
    let unit ← hexUnit? a b c d
    if unit < 0xD800 ∨ 0xDFFF < unit then
      return encoded unit ++ (← unescape rest)
    else if 0xDC00 ≤ unit then none
    else match rest with
      | 0x5C :: 0x75 :: e :: f :: g :: h :: rest => do
        let codePoint ← pairedUnits? unit (← hexUnit? e f g h)
        return encoded codePoint ++ (← unescape rest)
      | _ => none
  | [0x5C] => none
  | 0x5C :: b :: rest => do
    return (← shortEscape? b) :: (← unescape rest)
  | b :: rest => do
    return b :: (← unescape rest)

/-- The text that a literal denotes, if it denotes one. -/
def decode? (literal : Literal) : Option String := do
  String.fromUTF8? ⟨(← unescape literal.bytes).toArray⟩

def hexDigit (value : Nat) : UInt8 :=
  if value < 10 then 0x30 + value.toUInt8 else 0x57 + value.toUInt8

/-- How one character is written: quotes, backslashes and control characters are escaped. -/
def encodeChar (c : Char) : List UInt8 :=
  if c = '"' then [0x5C, 0x22]
  else if c = '\\' then [0x5C, 0x5C]
  else if c = '\x08' then [0x5C, 0x62]
  else if c = '\x0C' then [0x5C, 0x66]
  else if c = '\n' then [0x5C, 0x6E]
  else if c = '\r' then [0x5C, 0x72]
  else if c = '\t' then [0x5C, 0x74]
  else if c.toNat < 0x20 then
    [0x5C, 0x75, 0x30, 0x30, hexDigit (c.toNat / 16), hexDigit (c.toNat % 16)]
  else String.utf8EncodeChar c

def encode (text : String) : Literal :=
  ⟨text.toList.flatMap encodeChar⟩

end Literal

end CoupledFs.Json
