import CoupledFs.Json.Value
import CoupledFs.Proofs.JsonText

/-! The grammar of JSON documents: numerals, tokens, the tokens of a value, and the documents that
spell tokens out with any space between them. It says nothing about how documents are read. -/

namespace CoupledFs.Json

/-! ### Numerals -/

def IsDigit (b : UInt8) : Prop := 0x30 ≤ b ∧ b ≤ 0x39

def Digits (bytes : List UInt8) : Prop := bytes ≠ [] ∧ ∀ b ∈ bytes, IsDigit b

/-- What stands before the point: a zero alone, or digits that do not begin with one. -/
inductive Whole : List UInt8 → Prop where
  | zero : Whole [0x30]
  | digits (first : IsDigit b) (nonzero : b ≠ 0x30) (others : ∀ c ∈ bytes, IsDigit c) :
      Whole (b :: bytes)

inductive Fraction : List UInt8 → Prop where
  | absent : Fraction []
  | digits (places : Digits bytes) : Fraction (0x2E :: bytes)

inductive Exponent : List UInt8 → Prop where
  | absent : Exponent []
  | digits (marked : e = 0x65 ∨ e = 0x45) (power : Digits bytes) : Exponent (e :: bytes)
  | signed (marked : e = 0x65 ∨ e = 0x45) (sign : s = 0x2B ∨ s = 0x2D) (power : Digits bytes) :
      Exponent (e :: s :: bytes)

inductive Numeral : List UInt8 → Prop where
  | positive (whole : Whole front) (fraction : Fraction middle) (exponent : Exponent back) :
      Numeral (front ++ (middle ++ back))
  | negative (whole : Whole front) (fraction : Fraction middle) (exponent : Exponent back) :
      Numeral (0x2D :: (front ++ (middle ++ back)))

/-! ### Tokens -/

namespace Token

/-- Whether a token keeps something that may be written. -/
def Legal : Token → Prop
  | number numeral => Numeral numeral
  | text literal => LegalText literal.bytes
  | openArray | closeArray | openObject | closeObject | comma | colon | null | bool _ => True

def bytes : Token → List UInt8
  | openArray => [0x5B]
  | closeArray => [0x5D]
  | openObject => [0x7B]
  | closeObject => [0x7D]
  | comma => [0x2C]
  | colon => [0x3A]
  | null => [0x6E, 0x75, 0x6C, 0x6C]
  | bool true => [0x74, 0x72, 0x75, 0x65]
  | bool false => [0x66, 0x61, 0x6C, 0x73, 0x65]
  | number numeral => numeral
  | text literal => 0x22 :: (literal.bytes ++ [0x22])

/-- The tokens of a container, given those of each of its parts. -/
def enclose (first last : Token) : List (List Token) → List Token
  | [] => [first, last]
  | part :: parts => first :: (part ++ (parts.flatMap (comma :: ·) ++ [last]))

end Token

mutual

def Value.tokens : Value → List Token
  | .null => [.null]
  | .bool value => [.bool value]
  | .number numeral => [.number numeral]
  | .text literal => [.text literal]
  | .array items => Token.enclose .openArray .closeArray (itemTokens items)
  | .object members => Token.enclose .openObject .closeObject (memberTokens members)

def itemTokens : List Value → List (List Token)
  | [] => []
  | item :: items => item.tokens :: itemTokens items

def memberTokens : List (Literal × Value) → List (List Token)
  | [] => []
  | (name, value) :: members => (.text name :: .colon :: value.tokens) :: memberTokens members

end

theorem itemTokens_eq_map (items : List Value) : itemTokens items = items.map Value.tokens := by
  induction items with
  | nil => rfl
  | cons item items ih => rw [itemTokens, ih, List.map_cons]

theorem memberTokens_eq_map (members : List (Literal × Value)) : memberTokens members =
    members.map fun member => .text member.1 :: .colon :: member.2.tokens := by
  induction members with
  | nil => rfl
  | cons member members ih => rw [memberTokens, ih, List.map_cons]

/-- What holds of a container if it holds of what is in it, and of all else, holds of every value. -/
theorem Value.induct {motive : Value → Prop} (null : motive .null)
    (bool : ∀ value, motive (.bool value)) (number : ∀ numeral, motive (.number numeral))
    (text : ∀ literal, motive (.text literal))
    (array : ∀ items, (∀ item ∈ items, motive item) → motive (.array items))
    (object : ∀ members : List (Literal × Value), (∀ member ∈ members, motive member.2) →
      motive (.object members)) (value : Value) : motive value :=
  @Value.rec motive (fun items => ∀ item ∈ items, motive item)
    (fun members => ∀ member ∈ members, motive member.2) (fun member => motive member.2)
    null bool number text array object
    (List.forall_mem_nil _) (fun _ _ first others => List.forall_mem_cons.mpr ⟨first, others⟩)
    (List.forall_mem_nil _) (fun _ _ first others => List.forall_mem_cons.mpr ⟨first, others⟩)
    (fun _ _ inner => inner) value

/-! ### Documents -/

/-- Spaces, tabs and ends of lines. -/
def Blank (space : List UInt8) : Prop := ∀ b ∈ space, b = 0x20 ∨ b = 0x09 ∨ b = 0x0A ∨ b = 0x0D

/-- The documents of some tokens, in their order and with any space around them. -/
inductive Spells : List Token → List UInt8 → Prop where
  | done (blank : Blank space) : Spells [] space
  | token {tokens : List Token} (blank : Blank space) (legal : token.Legal)
      (rest : Spells tokens bytes) : Spells (token :: tokens) (space ++ (token.bytes ++ bytes))

def Value.Written (value : Value) (document : List UInt8) : Prop := Spells value.tokens document

end CoupledFs.Json
