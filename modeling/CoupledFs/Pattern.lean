import CoupledFs.Pattern.CharSet

/-! Patterns that text is searched for. They are kept in a plain form: parts of parts are parts,
neighbouring characters are one text, and alternatives that are single characters are one set. -/

namespace CoupledFs

/-- What may be asked of a place between two characters. -/
inductive Pattern.Assertion where
  | start
  | finish
  /-- The start of the text or of a line. -/
  | lineStart
  | lineFinish
  /-- As `lineStart`, where a carriage return ends a line too, alone or before a line feed. -/
  | anyLineStart
  | anyLineFinish
  | wordBoundary
  | notWordBoundary
  | wordStart
  | wordFinish
  deriving DecidableEq, Repr

/-- How often something may be repeated. -/
inductive Pattern.Times where
  | atMostOnce
  | anyNumber
  | atLeastOnce
  deriving DecidableEq, Repr

inductive Pattern where
  | empty
  | text (characters : List Char)
  /-- One character of a set. `wide` says whether it was taken from all characters or from single
  bytes. -/
  | set (wide : Bool) (members : Pattern.CharSet)
  | assertion (kind : Pattern.Assertion)
  /-- A group with a number of its own. -/
  | group (number : Nat) (body : Pattern)
  | repeated (times : Pattern.Times) (greedy : Bool) (body : Pattern)
  | sequence (parts : List Pattern)
  | either (alternatives : List Pattern)
  deriving BEq, Repr

namespace Pattern

mutual

/-- The least number of characters in a match, unless some part can match nothing at all. -/
def minLength? : Pattern → Option Nat
  | empty | assertion _ => some 0
  | text characters => some characters.length
  | set _ members => if members.isEmpty then none else some 1
  | group _ body => body.minLength?
  | repeated .atLeastOnce _ body => body.minLength?
  | repeated _ _ body => body.minLength?.map fun _ => 0
  | sequence parts => (minLengths? parts).map fun lengths => lengths.foldl (· + ·) 0
  | either alternatives => (minLengths? alternatives).bind List.min?

private def minLengths? : List Pattern → Option (List Nat)
  | [] => some []
  | pattern :: patterns => do return (← pattern.minLength?) :: (← minLengths? patterns)

end

mutual

/-- Whether a pattern matches nothing but the empty text. -/
def isBlank : Pattern → Bool
  | empty | assertion _ => true
  | text _ | set _ _ => false
  | group _ body => body.isBlank
  | repeated _ _ body => body.isBlank
  | sequence parts => allBlank parts
  | either alternatives => allBlank alternatives

private def allBlank : List Pattern → Bool
  | [] => true
  | pattern :: patterns => pattern.isBlank && allBlank patterns

end

/-- Whether every match takes up a character. -/
def isFilled (pattern : Pattern) : Bool :=
  pattern.minLength?.any (0 < ·)

def ofSet (wide : Bool) (members : CharSet) : Pattern :=
  if members.isEmpty then set false {}
  else match members.single? with
    | some c => text [c]
    | none => set wide members

/-- A repetition. What is always empty needs no second time. -/
def ofRepetition (times : Times) (greedy : Bool) (body : Pattern) : Pattern :=
  if body.isBlank then
    match times with
    | .atLeastOnce => body
    | .atMostOnce | .anyNumber => repeated .atMostOnce greedy body
  else repeated times greedy body

/-- Puts a part in front of others, which are in plain form. -/
private def prepend (part : Pattern) (parts : List Pattern) : List Pattern :=
  match part, parts with
  | empty, parts => parts
  | text front, text back :: parts => text (front ++ back) :: parts
  | part, parts => part :: parts

/-- One pattern after the other. -/
def ofSequence (patterns : List Pattern) : Pattern :=
  let parts := patterns.flatMap fun pattern => match pattern with
    | sequence parts => parts
    | pattern => [pattern]
  match parts.foldr prepend [] with
  | [] => empty
  | [part] => part
  | parts => sequence parts

private def singleChar? : Pattern → Option Char
  | text [c] => some c
  | _ => none

private def members? : Pattern → Option CharSet
  | set _ members => some members
  | _ => none

private def parts? : Pattern → Option (List Pattern)
  | sequence parts => some parts
  | _ => none

private def commonPrefix (a b : List Pattern) : List Pattern :=
  ((a.zip b).takeWhile fun (x, y) => x == y).map Prod.fst

/-- The parts that several sequences begin with. -/
private def sharedStart : List (List Pattern) → List Pattern
  | [] => []
  | first :: others => others.foldl commonPrefix first

mutual

/-- The number of patterns within a pattern. -/
private def count : Pattern → Nat
  | empty | text _ | set _ _ | assertion _ => 1
  | group _ body | repeated _ _ body => body.count + 1
  | sequence parts | either parts => countAll parts + 1

private def countAll : List Pattern → Nat
  | [] => 0
  | pattern :: patterns => pattern.count + countAll patterns

end

/-- Any of several patterns. What all of them begin with is taken out in front, which makes the
alternatives smaller each time, so that their size is enough `fuel`. -/
private def ofAlternativesWithin : Nat → List Pattern → Pattern
  | 0, patterns => either patterns
  | fuel + 1, patterns =>
    let alternatives := patterns.flatMap fun pattern => match pattern with
      | either alternatives => alternatives
      | pattern => [pattern]
    match alternatives with
    | [] => set false {}
    | [pattern] => pattern
    | alternatives =>
      match alternatives.mapM singleChar?, alternatives.mapM members?, alternatives.mapM parts? with
      | some characters, _, _ => ofSet true (.anyOf (characters.map .single))
      | none, some sets, _ => ofSet true (.anyOf sets)
      | none, none, some sequences =>
        match sharedStart sequences with
        | [] => either alternatives
        | shared =>
          let rests := sequences.map fun parts => ofSequence (parts.drop shared.length)
          ofSequence (shared ++ [ofAlternativesWithin fuel rests])
      | none, none, none => either alternatives

/-- Any of several patterns, the first before the others. -/
def ofAlternatives (patterns : List Pattern) : Pattern :=
  ofAlternativesWithin (countAll patterns + 1) patterns

end Pattern

end CoupledFs
