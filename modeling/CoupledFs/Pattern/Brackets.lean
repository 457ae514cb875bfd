import CoupledFs.Pattern.Escape

/-! Sets of characters in brackets. -/

namespace CoupledFs.Pattern.Brackets

/-- What may stand between two sets. All of them bind alike, from left to right. -/
inductive Operator where
  | inter
  | minus
  | difference
  deriving DecidableEq, Repr

/-- The set that an operator makes of two others. -/
def Operator.apply : Operator → CharSet → CharSet → CharSet
  | inter => .inter
  | minus => .minus
  | difference => .difference

/-- A set that has been read. -/
structure Operand where
  members : CharSet
  /-- How deep lists, operators and brackets lie within each other. -/
  depth : Nat
  deriving Repr

/-- Items in a row. -/
structure Items where
  /-- Whatever is in any of the items. -/
  members : CharSet := {}
  count : Nat := 0
  /-- The depth of the deepest item. -/
  depth : Nat := 0
  deriving Repr

namespace Items

/-- The items with another one behind them. -/
def add (items : Items) (members : CharSet) (depth : Nat) : Items :=
  ⟨items.members.union members, items.count + 1, max items.depth depth⟩

/-- The set of a row of items. A row is a list unless it is a single item. -/
def operand (items : Items) : Operand :=
  ⟨items.members, if 1 < items.count then items.depth + 1 else items.depth⟩

end Items

/-- What a reader of brackets comes back to. -/
inductive Frame where
  /-- A bracket was opened behind the items `before`. -/
  | bracket (outside : Bool) (before : Items)
  | operator (kind : Operator) (left : Operand)
  deriving Repr

/-- The complement of a set, which can be taken only where characters are not bytes. -/
private def complement? (flags : Flags) (a : CharSet) : Option CharSet :=
  if flags.has .unicode then some a.complement else none

/-- Does the operation that waits for its right side, if there is one. -/
private def settle (right : Operand) : List Frame → Operand × List Frame
  | .operator kind left :: frames =>
    (⟨kind.apply left.members right.members, max left.depth right.depth + 1⟩, frames)
  | frames => (right, frames)

private def addSet? (flags : Flags) (items : Items) (members : CharSet) : Option Items :=
  (flags.cases? members).map fun members => items.add members 0

private def readItem (flags : Flags) : List Char → Option (Primitive × List Char)
  | [] => none
  | '\\' :: rest => Primitive.readEscape flags rest
  | c :: rest => some (.literal c false, rest)

/-- The character that an item is. Where characters are bytes, only some are characters on their
own. -/
private def char? (flags : Flags) : Primitive → Option Char
  | .literal c _ => if flags.has .unicode || c.toNat < 0x80 then some c else none
  | .set _ | .assertion _ => none

private def members? (flags : Flags) (item : Primitive) : Option CharSet :=
  match item with
  | .set members => some members
  | _ => (char? flags item).map CharSet.single

/-- Reads an item, or the range between two of them. A minus sign before the closing bracket or
another minus sign makes no range. -/
private def readRange (flags : Flags) (text : List Char) : Option (CharSet × List Char) := do
  let (first, rest) ← readItem flags text
  match flags.skipSpace rest with
  | [] => none
  | '-' :: behind =>
    if flags.behindMinus? behind ∈ [some ']', some '-'] then
      return (← members? flags first, '-' :: behind)
    else
      let (last, rest) ← readItem flags (flags.skipSpace behind)
      let low ← char? flags first
      let high ← char? flags last
      if low ≤ high then return (.range low high, rest) else none
  | rest => return (← members? flags first, rest)

/-- Reads a named set, from behind its opening bracket. -/
private def readNamed (flags : Flags) (text : List Char) : Option (Option CharSet × List Char) :=
  match text with
  | ':' :: rest =>
    let outside := rest.head? = some '^'
    let rest := if outside then rest.drop 1 else rest
    let name := rest.takeWhile (· ≠ ':')
    match rest.dropWhile (· ≠ ':'), CharSet.named? (String.ofList name) with
    | ':' :: ']' :: rest, some a => some (if outside then complement? flags a else some a, rest)
    | _, _ => none
  | _ => none

/-- The minus signs that a set starts with, which stand for themselves. -/
private def readMinus (flags : Flags) (before : Nat) : Nat → List Char → Nat × List Char
  | fuel + 1, '-' :: rest => readMinus flags (before + 1) fuel (flags.skipSpace rest)
  | _, rest => (before, rest)

/-- Reads the start of a set, from behind its opening bracket. A closing bracket that comes first
stands for itself. -/
private def opening (flags : Flags) (text : List Char) : Option (Bool × Items × List Char) := do
  let text := flags.skipSpace text
  let outside := text.head? = some '^'
  let text := if outside then flags.skipSpace (text.drop 1) else text
  match readMinus flags 0 text.length text with
  | (0, ']' :: rest) => return (outside, ← addSet? flags {} (.single ']'), flags.skipSpace rest)
  | (0, rest) => return (outside, {}, rest)
  | (count, rest) =>
    let items ← addSet? flags {} (.single '-')
    return (outside, { items with count }, rest)

/-- Reads up to the bracket that closes the first one. Each step uses up a character at least, so the
length of the text is enough `fuel`. -/
private def readItems (flags : Flags) (frames : List Frame) (items : Items) :
    Nat → List Char → Option (Operand × List Char)
  | 0, _ => none
  | fuel + 1, behind =>
    let operate (kind : Operator) (rest : List Char) :=
      let (left, frames) := settle items.operand frames
      readItems flags (.operator kind left :: frames) {} fuel rest
    match flags.skipSpace behind with
    | [] => none
    | '[' :: rest =>
      match readNamed flags rest with
      | some (a, rest) => do readItems flags frames (← addSet? flags items (← a)) fuel rest
      | none => do
        let (outside, inner, rest) ← opening flags rest
        readItems flags (.bracket outside items :: frames) inner fuel rest
    | ']' :: rest =>
      match settle items.operand frames with
      | (⟨a, depth⟩, .bracket outside before :: frames) => do
        let a ← if outside then complement? flags a else some a
        if frames.isEmpty then return (⟨a, depth⟩, rest)
        else readItems flags frames (before.add a (depth + 1)) fuel rest
      | _ => none
    | '&' :: '&' :: rest => operate .inter rest
    | '-' :: '-' :: rest => operate .minus rest
    | '~' :: '~' :: rest => operate .difference rest
    | behind => do
      let (a, rest) ← readRange flags behind
      readItems flags frames (← addSet? flags items a) fuel rest

/-- Reads a set in brackets, from behind the first of them. -/
def read (flags : Flags) (text : List Char) : Option (Operand × List Char) := do
  let (outside, items, rest) ← opening flags text
  readItems flags [.bracket outside {}] items (rest.length + 1) rest

end CoupledFs.Pattern.Brackets
