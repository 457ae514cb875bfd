/-! Dividing text, and joining the parts again. -/

namespace CoupledFs.Text

/-- The stretches of a text between its separators: always one more than there are separators. -/
def fieldsOf (isSeparator : Char → Bool) : List Char → List (List Char)
  | [] => [[]]
  | c :: rest =>
    if isSeparator c then [] :: fieldsOf isSeparator rest
    else (fieldsOf isSeparator rest).modifyHead (c :: ·)

def fields (isSeparator : Char → Bool) (text : String) : List String :=
  (fieldsOf isSeparator text.toList).map String.ofList

/-- The non-empty parts of a text, joined by a separator. -/
def joinParts (separator : Char) (parts : List String) : String :=
  String.intercalate (String.singleton separator) (parts.filter (· ≠ ""))

/-- Divides a text behind so many of its bytes, which must not end within a character. -/
def splitAtByte? : Nat → List Char → Option (List Char × List Char)
  | 0, text => some ([], text)
  | _ + 1, [] => none
  | bytes + 1, c :: rest => do
    if bytes + 1 < c.utf8Size then none
    else
      let (front, back) ← splitAtByte? (bytes + 1 - c.utf8Size) rest
      return (c :: front, back)
termination_by _ text => text.length

/-- The part of a text behind so many of its bytes. -/
def dropBytes? (bytes : Nat) (text : List Char) : Option (List Char) :=
  (splitAtByte? bytes text).map Prod.snd

/-- The part of a text between two distances from its start, in bytes. -/
def cut? (first last : Nat) (text : List Char) : Option (List Char) := do
  let front ← (splitAtByte? last text).map Prod.fst
  dropBytes? first front

end CoupledFs.Text
