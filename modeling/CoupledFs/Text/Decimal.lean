/-! Decimal numerals with an optional sign. -/

namespace CoupledFs.Text

/-- The number that a non-empty run of decimal digits denotes. -/
def digitsValue? (digits : List Char) : Option Nat :=
  if digits ≠ [] ∧ digits.all Char.isDigit then
    some (digits.foldl (fun value c => 10 * value + (c.toNat - '0'.toNat)) 0)
  else none

/-- A natural number up to `limit`; a plus sign may stand before it. -/
def natural? (limit : Nat) (text : String) : Option Nat :=
  let digits := match text.toList with
    | '+' :: digits => digits
    | digits => digits
  (digitsValue? digits).filter (· ≤ limit)

/-- A natural number up to `limit` where a sign of either kind may stand before it, so that
minus zero is zero. -/
def signedNatural? (limit : Nat) (text : String) : Option Nat :=
  match text.toList with
  | '-' :: digits => (digitsValue? digits).filter (· = 0)
  | _ => natural? limit text

/-- Whether an exponent, or nothing at all, is written here. -/
private def isExponent : List Char → Bool
  | [] => true
  | mark :: rest =>
    let digits := match rest with
      | '+' :: digits | '-' :: digits => digits
      | digits => digits
    (mark = 'e' || mark = 'E') && digits ≠ [] && digits.all Char.isDigit

/-- Whether a text is the numeral of a number that need not be whole, or a word for infinity or for
no number. -/
def isReal (text : String) : Bool :=
  let unsigned := match text.toList with
    | '+' :: rest | '-' :: rest => rest
    | rest => rest
  let whole := unsigned.takeWhile Char.isDigit
  let (part, rest) := match unsigned.dropWhile Char.isDigit with
    | '.' :: rest => (rest.takeWhile Char.isDigit, rest.dropWhile Char.isDigit)
    | rest => ([], rest)
  (String.ofList unsigned).toLower ∈ ["inf", "infinity", "nan"] ||
    (whole ≠ [] || part ≠ []) && isExponent rest

end CoupledFs.Text
