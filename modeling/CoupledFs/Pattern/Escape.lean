import CoupledFs.Pattern
import CoupledFs.Pattern.Flags

/-! What follows a backslash in a pattern. -/

namespace CoupledFs.Pattern

/-- The smallest part of a pattern. -/
inductive Primitive where
  /-- A character. It may have been given by the two digits of a byte. -/
  | literal (c : Char) (asByte : Bool)
  | set (members : CharSet)
  | assertion (kind : Assertion)
  deriving Repr

namespace Primitive

private def hexValue? (c : Char) : Option Nat :=
  if c.isDigit then some (c.toNat - '0'.toNat)
  else if 'a' ≤ c ∧ c ≤ 'f' then some (c.toNat - 'a'.toNat + 10)
  else if 'A' ≤ c ∧ c ≤ 'F' then some (c.toNat - 'A'.toNat + 10)
  else none

/-- Reads so many hexadecimal digits, between which there may be space. -/
private def readHex (flags : Flags) (value : Nat) : Nat → List Char → Option (Nat × List Char)
  | 0, rest => some (value, rest)
  | digits + 1, rest =>
    match flags.skipSpace rest with
    | c :: rest => do readHex flags (16 * value + (← hexValue? c)) digits rest
    | [] => none

private def readCodePoint (flags : Flags) (digits : Nat) (text : List Char) :
    Option (Primitive × List Char) := do
  let (value, rest) ← readHex flags 0 digits text
  if value.isValidChar then
    return (literal (Char.ofNat value) (digits = 2), flags.skipSpace rest)
  else none

/-- What is offered only where characters are bytes. -/
private def bytesOnly? (flags : Flags) (primitive : Primitive) : Option Primitive :=
  if flags.has .unicode then none else some primitive

/-- Whether a backslash in front of a character makes it stand for itself. -/
private def isPlain (c : Char) : Bool :=
  c.toNat < 0x80 && !c.isAlphanum && c ≠ '<' && c ≠ '>'

/-- Reads what follows a backslash. -/
def readEscape (flags : Flags) : List Char → Option (Primitive × List Char)
  | [] => none
  | c :: rest =>
    let only (primitive : Option Primitive) := primitive.map (·, rest)
    match c with
    | 'x' => readCodePoint flags 2 rest
    | 'u' => readCodePoint flags 4 rest
    | 'U' => readCodePoint flags 8 rest
    | 'd' => only (bytesOnly? flags (set .digit))
    | 's' => only (bytesOnly? flags (set .space))
    | 'w' => only (bytesOnly? flags (set .word))
    | 'a' => only (literal '\x07' false)
    | 'f' => only (literal '\x0C' false)
    | 't' => only (literal '\t' false)
    | 'n' => only (literal '\n' false)
    | 'r' => only (literal '\r' false)
    | 'v' => only (literal '\x0B' false)
    | 'A' => only (assertion .start)
    | 'z' => only (assertion .finish)
    | 'b' => only (bytesOnly? flags (assertion .wordBoundary))
    | 'B' => only (bytesOnly? flags (assertion .notWordBoundary))
    | '<' => only (bytesOnly? flags (assertion .wordStart))
    | '>' => only (bytesOnly? flags (assertion .wordFinish))
    | _ => if isPlain c then only (literal c false) else none

end Primitive

end CoupledFs.Pattern
