/-! Sets of characters as ranges. Characters are counted without a gap where the surrogates would
be. -/

namespace CoupledFs.Pattern

/-- A set of characters. The ranges are in order, and no two of them touch. -/
structure CharSet where
  ranges : List (Nat × Nat) := []
  deriving DecidableEq, Repr

namespace CharSet

def lastOrdinal : Nat := 0x10F7FF

/-- The number of a character. -/
def ordinal (c : Char) : Nat :=
  if c.toNat < 0xD800 then c.toNat else c.toNat - 0x800

/-- The character of a number. -/
def ofOrdinal (n : Nat) : Char :=
  Char.ofNat (if n < 0xD800 then n else n + 0x800)

private def insertRange (first last : Nat) : List (Nat × Nat) → List (Nat × Nat)
  | [] => [(first, last)]
  | (low, high) :: rest =>
    if last + 1 < low then (first, last) :: (low, high) :: rest
    else if high + 1 < first then (low, high) :: insertRange first last rest
    else insertRange (min first low) (max last high) rest

/-- The ranges of all that is in one of two lists of ranges. -/
private def merge (a b : List (Nat × Nat)) : List (Nat × Nat) :=
  b.foldl (fun ranges (first, last) => insertRange first last ranges) a

/-- What is between ranges, from `next` on. -/
private def gaps (next : Nat) : List (Nat × Nat) → List (Nat × Nat)
  | [] => if next ≤ lastOrdinal then [(next, lastOrdinal)] else []
  | (low, high) :: rest => (if next < low then [(next, low - 1)] else []) ++ gaps (high + 1) rest

def contains (a : CharSet) (c : Char) : Bool :=
  a.ranges.any fun (first, last) => first ≤ ordinal c && ordinal c ≤ last

def isEmpty (a : CharSet) : Bool := a.ranges.isEmpty

def range (first last : Char) : CharSet := ⟨[(ordinal first, ordinal last)]⟩

def single (c : Char) : CharSet := range c c

/-- The only member of a set. -/
def single? (a : CharSet) : Option Char :=
  match a.ranges with
  | [(first, last)] => if first = last then some (ofOrdinal first) else none
  | _ => none

def all : CharSet := ⟨[(0, lastOrdinal)]⟩

def union (a b : CharSet) : CharSet := ⟨merge a.ranges b.ranges⟩

def complement (a : CharSet) : CharSet := ⟨gaps 0 a.ranges⟩

def inter (a b : CharSet) : CharSet := complement (union (complement a) (complement b))

/-- The members of the first set that are not in the second. -/
def minus (a b : CharSet) : CharSet := inter a (complement b)

/-- The members of exactly one of two sets. -/
def difference (a b : CharSet) : CharSet := minus (union a b) (inter a b)

def anyOf (sets : List CharSet) : CharSet := sets.foldl union {}

/-- The characters of a set between two others, each moved to another place. -/
private def moved (a : CharSet) (first last : Char) (place : Nat → Nat) : CharSet :=
  ⟨(inter a (range first last)).ranges.map fun (low, high) => (place low, place high)⟩

/-- The set with the other cases of its members, of which only ASCII letters have any. -/
def bothCases (a : CharSet) : CharSet :=
  anyOf [a, a.moved 'A' 'Z' (· + 0x20), a.moved 'a' 'z' (· - 0x20)]

def digit : CharSet := range '0' '9'

/-- Tab, the line ends, the form feed and the space. -/
def space : CharSet := union (range '\t' '\r') (single ' ')

def letter : CharSet := union (range 'A' 'Z') (range 'a' 'z')

/-- The letters of ASCII, the digits and the underscore. -/
def word : CharSet := anyOf [digit, letter, single '_']

/-- The set that a word between colons stands for inside brackets. -/
def named? : String → Option CharSet
  | "alnum" => some (union digit letter)
  | "alpha" => some letter
  | "ascii" => some (range '\x00' '\x7F')
  | "blank" => some (union (single '\t') (single ' '))
  | "cntrl" => some (union (range '\x00' '\x1F') (single '\x7F'))
  | "digit" => some digit
  | "graph" => some (range '!' '~')
  | "lower" => some (range 'a' 'z')
  | "print" => some (range ' ' '~')
  | "punct" =>
    some (anyOf [range '!' '/', range ':' '@', range '[' (Char.ofNat 0x60),
      range (Char.ofNat 0x7B) '~'])
  | "space" => some space
  | "upper" => some (range 'A' 'Z')
  | "word" => some word
  | "xdigit" => some (anyOf [digit, range 'A' 'F', range 'a' 'f'])
  | _ => none

end CharSet

end CoupledFs.Pattern
