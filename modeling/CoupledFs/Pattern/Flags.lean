import CoupledFs.Pattern.CharSet
import CoupledFs.Text.Blank

/-! What a pattern may say about how the rest of it is read. -/

namespace CoupledFs.Pattern

/-- A flag, by the letter that stands for it. -/
inductive Flag where
  | ignoreCase
  | multiLine
  | dotMatchesNewline
  | swapGreed
  | unicode
  | anyLineEnd
  | spaced
  deriving DecidableEq, Repr

def Flag.ofLetter? : Char → Option Flag
  | 'i' => some ignoreCase
  | 'm' => some multiLine
  | 's' => some dotMatchesNewline
  | 'U' => some swapGreed
  | 'u' => some unicode
  | 'R' => some anyLineEnd
  | 'x' => some spaced
  | _ => none

/-- The flags that are set. -/
structure Flags where
  set : List Flag := [.unicode]
  deriving DecidableEq, Repr

namespace Flags

def has (flags : Flags) (flag : Flag) : Bool := flags.set.contains flag

/-- The flags with one of them set or taken back. -/
def put (flags : Flags) (flag : Flag) (value : Bool) : Flags :=
  let others := flags.set.filter (· ≠ flag)
  ⟨if value then flag :: others else others⟩

/-- Reads the flags up to a colon or a closing parenthesis, which is still there afterwards. No
flag may be named twice, the minus sign may stand only once, and a flag has to follow it. -/
private def readAfter (flags : Flags) (named : List Flag) (value : Bool) :
    List Char → Option (Flags × List Char)
  | [] => none
  | '-' :: c :: rest =>
    if value ∧ c ≠ ':' ∧ c ≠ ')' then readAfter flags named false (c :: rest) else none
  | c :: rest =>
    if c = ':' ∨ c = ')' then some (flags, c :: rest)
    else do
      let flag ← Flag.ofLetter? c
      if flag ∈ named then none
      else readAfter (flags.put flag value) (flag :: named) value rest

/-- Reads flags up to a colon or a closing parenthesis. -/
def read (flags : Flags) (text : List Char) : Option (Flags × List Char) :=
  readAfter flags [] true text

/-- The text behind white space and comments, where these are allowed. -/
def skipSpace (flags : Flags) (text : List Char) : List Char :=
  if flags.has .spaced then skip false text else text
where
  skip (inComment : Bool) : List Char → List Char
    | [] => []
    | c :: rest =>
      if inComment then skip (c ≠ '\n') rest
      else if c = '#' then skip true rest
      else if Text.isBlankChar c then skip false rest
      else c :: rest

/-- The character that a reader of ranges takes into account behind a minus sign. Where white space
is skipped, so is the mark of a comment, but not what the comment says. -/
def behindMinus? (flags : Flags) (text : List Char) : Option Char :=
  if flags.has .spaced then (look false text).or text.head? else text.head?
where
  look (inComment : Bool) : List Char → Option Char
    | [] => none
    | c :: rest =>
      if Text.isBlankChar c then look inComment rest
      else if c = '#' ∧ !inComment then look true rest
      else some c

/-- The characters that a set stands for. Where case is ignored, the other cases of a character are
known among bytes only. -/
def cases? (flags : Flags) (a : CharSet) : Option CharSet :=
  if !flags.has .ignoreCase then some a
  else if flags.has .unicode then none
  else some a.bothCases

end Flags

end CoupledFs.Pattern
