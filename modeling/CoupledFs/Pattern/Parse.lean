import CoupledFs.Pattern.Brackets
import CoupledFs.Text.Alphanumeric

/-! Reading a pattern from text. How often something is repeated cannot be given by numbers in
braces. -/

namespace CoupledFs.Pattern

/-- A pattern that has been read. -/
structure Parsed where
  pattern : Pattern
  /-- How deep sequences, choices, groups, repetitions and brackets lie within each other. -/
  depth : Nat
  deriving Repr

private def deepest (parts : List Parsed) : Nat :=
  (parts.map Parsed.depth).foldl max 0

/-- What has been read of a group. -/
structure Branch where
  /-- The alternatives before the current one, in reverse. -/
  others : List Parsed := []
  /-- The parts of the current alternative, in reverse. A change of flags is a part without a
  pattern. -/
  parts : List (Option Parsed) := []
  deriving Repr

namespace Branch

/-- The branch with another part. -/
def add (branch : Branch) (part : Parsed) : Branch :=
  { branch with parts := some part :: branch.parts }

private def current (branch : Branch) : Parsed :=
  let parts := branch.parts.reverse.filterMap id
  let depth := deepest parts
  ⟨ofSequence (parts.map Parsed.pattern), if 1 < branch.parts.length then depth + 1 else depth⟩

def next (branch : Branch) : Branch :=
  ⟨branch.current :: branch.others, []⟩

/-- The pattern of a whole group. -/
def finish (branch : Branch) : Parsed :=
  if branch.others.isEmpty then branch.current
  else
    let alternatives := branch.next.others.reverse
    ⟨ofAlternatives (alternatives.map Parsed.pattern), deepest alternatives + 1⟩

/-- The branch with its last part repeated; there has to be one. -/
def repeatLast? (branch : Branch) (times : Times) (greedy : Bool) : Option Branch :=
  match branch.parts with
  | some ⟨body, depth⟩ :: parts =>
    some { branch with parts := some ⟨ofRepetition times greedy body, depth + 1⟩ :: parts }
  | _ => none

end Branch

/-- What a reader of groups comes back to. -/
structure Outer where
  /-- The flags that hold behind the group. -/
  flags : Flags
  branch : Branch
  /-- The number of the group, if it has one. -/
  number : Option Nat
  deriving Repr

/-- A pattern in the middle of being read. -/
structure Reading where
  flags : Flags := {}
  branch : Branch := {}
  /-- The groups around the current one, the nearest first. -/
  outer : List Outer := []
  /-- The number of groups that have a number of their own. -/
  groups : Nat := 0
  /-- The names of groups so far. -/
  names : List String := []
  deriving Repr

namespace Reading

private def opened (reading : Reading) (flags : Flags) (number : Option Nat) : Reading :=
  { reading with
    flags
    branch := {}
    outer := ⟨reading.flags, reading.branch, number⟩ :: reading.outer }

private def openedNumbered (reading : Reading) : Reading :=
  { reading.opened reading.flags (some reading.groups) with groups := reading.groups + 1 }

private def closed? (reading : Reading) : Option Reading :=
  match reading.outer with
  | ⟨flags, branch, number⟩ :: outer =>
    let ⟨body, depth⟩ := reading.branch.finish
    let pattern := match number with
      | some number => .group number body
      | none => body
    some { reading with flags, branch := branch.add ⟨pattern, depth + 1⟩, outer }
  | [] => none

private def withFlags (reading : Reading) (flags : Flags) : Reading :=
  { reading with
    flags
    branch := { reading.branch with parts := none :: reading.branch.parts } }

private def isNameChar (first : Bool) (c : Char) : Bool :=
  if first then c = '_' || Text.isAlphabetic c
  else c ∈ ['_', '.', '[', ']'] || Text.isAlphanumeric c

private def readName (reading : Reading) (text : List Char) : Option (Reading × List Char) :=
  let name := text.takeWhile (· ≠ '>')
  match text.dropWhile (· ≠ '>'), name with
  | _ :: rest, first :: others =>
    if isNameChar true first ∧ others.all (isNameChar false) ∧
        String.ofList name ∉ reading.names then
      some ({ reading.openedNumbered with names := String.ofList name :: reading.names }, rest)
    else none
  | _, _ => none

/-- Reads the start of a group, from behind its parenthesis. Looking ahead and looking back are not
offered. -/
private def readGroup (reading : Reading) (text : List Char) : Option (Reading × List Char) :=
  match reading.flags.skipSpace text with
  | '?' :: 'P' :: '<' :: rest => reading.readName rest
  | '?' :: '<' :: rest => reading.readName rest
  | '?' :: rest =>
    match reading.flags.read rest with
    | some (flags, ':' :: behind) => some (reading.opened flags none, behind)
    | some (flags, _ :: behind) =>
      if rest.head? = some ')' then none else some (reading.withFlags flags, behind)
    | _ => none
  | rest => some (reading.openedNumbered, rest)

/-- The pattern of one character. -/
private def literal? (flags : Flags) (c : Char) (asByte : Bool) : Option Pattern :=
  if asByte ∧ !flags.has .unicode ∧ 0x80 ≤ c.toNat then none
  else (flags.cases? (.single c)).map (ofSet false)

/-- The pattern of any character, up to the end of a line unless told otherwise. -/
private def anyCharacter? (flags : Flags) : Option Pattern :=
  if !flags.has .unicode then none
  else if flags.has .dotMatchesNewline then some (ofSet true .all)
  else
    let ends := if flags.has .anyLineEnd then [.single '\r', .single '\n'] else [.single '\n']
    some (ofSet true (CharSet.anyOf ends).complement)

private def primitive? (flags : Flags) : Primitive → Option Pattern
  | .literal c asByte => literal? flags c asByte
  | .set members => some (ofSet (flags.has .unicode) members)
  | .assertion kind => some (.assertion kind)

private def lineAssertion (flags : Flags) (text line anyLine : Assertion) : Pattern :=
  .assertion
    (if !flags.has .multiLine then text else if flags.has .anyLineEnd then anyLine else line)

/-- Reads a sign of repetition, after which a question mark makes it prefer fewer. -/
private def readRepetition (reading : Reading) (times : Times) (rest : List Char) :
    Option (Reading × List Char) := do
  let fewer := rest.head? = some '?'
  let branch ← reading.branch.repeatLast? times (fewer == reading.flags.has .swapGreed)
  return ({ reading with branch }, if fewer then rest.drop 1 else rest)

private def readPart (reading : Reading) (c : Char) (rest : List Char) :
    Option (Reading × List Char) :=
  let flags := reading.flags
  let add (pattern : Option Pattern) (rest : List Char) : Option (Reading × List Char) := do
    return ({ reading with branch := reading.branch.add ⟨← pattern, 0⟩ }, rest)
  match c with
  | '(' => reading.readGroup rest
  | ')' => reading.closed?.map (·, rest)
  | '|' => some ({ reading with branch := reading.branch.next }, rest)
  | '[' => do
    let (⟨members, depth⟩, rest) ← Brackets.read flags rest
    let part : Parsed := ⟨ofSet (flags.has .unicode) members, depth + 1⟩
    return ({ reading with branch := reading.branch.add part }, rest)
  | '?' => reading.readRepetition .atMostOnce rest
  | '*' => reading.readRepetition .anyNumber rest
  | '+' => reading.readRepetition .atLeastOnce rest
  | '\\' => do
    let (primitive, rest) ← Primitive.readEscape flags rest
    add (primitive? flags primitive) rest
  | '.' => add (anyCharacter? flags) rest
  | '^' => add (lineAssertion flags .start .lineStart .anyLineStart) rest
  | '$' => add (lineAssertion flags .finish .lineFinish .anyLineFinish) rest
  | _ => if c = Char.ofNat 0x7B then none else add (literal? flags c false) rest

/-- How deep a pattern may be. -/
def depthLimit : Nat := 250

private def finish? (reading : Reading) : Option Pattern :=
  let ⟨pattern, depth⟩ := reading.branch.finish
  if reading.outer.isEmpty ∧ depth ≤ depthLimit then some pattern else none

/-- Reads the rest of a pattern. Each step uses up a character at least, so the length of the rest is
enough `fuel`. -/
private def readAll (reading : Reading) : Nat → List Char → Option Pattern
  | 0, _ => none
  | fuel + 1, behind =>
    match reading.flags.skipSpace behind with
    | [] => reading.finish?
    | c :: rest => do
      let (reading, rest) ← reading.readPart c rest
      reading.readAll fuel rest

end Reading

def parse? (source : String) : Option Pattern :=
  let characters := source.toList
  ({} : Reading).readAll (characters.length + 1) characters

end CoupledFs.Pattern
