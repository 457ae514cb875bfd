import CoupledFs.Json.Literal
import CoupledFs.Proofs.ByteOrder
import Mathlib.Data.List.Forall2
import Mathlib.Tactic.Common

/-! Text between quotes. What may stand there and which text it denotes is said character by
character; the reader then finds the text that a literal denotes, and the writer writes a literal
that denotes its text. -/

namespace CoupledFs.Json

/-! ### Escapes -/

/-- A byte that writes a digit between zero and fifteen, in either case. -/
inductive HexDigit : Nat → UInt8 → Prop where
  | decimal (small : value < 10) (writes : b.toNat = 0x30 + value) : HexDigit value b
  | upper (large : 10 ≤ value) (bounded : value < 16) (writes : b.toNat = 0x41 + (value - 10)) :
      HexDigit value b
  | lower (large : 10 ≤ value) (bounded : value < 16) (writes : b.toNat = 0x61 + (value - 10)) :
      HexDigit value b

/-- Four digits that write a number. -/
inductive HexUnit : Nat → List UInt8 → Prop where
  | digits (first : HexDigit p a) (second : HexDigit q b) (third : HexDigit r c)
      (fourth : HexDigit s d) (number : value = p * 0x1000 + q * 0x100 + r * 0x10 + s) :
      HexUnit value [a, b, c, d]

/-- What may stand behind a backslash alone, and the character that it stands for there. -/
def shortEscapes : List (UInt8 × Char) :=
  [(0x22, '"'), (0x5C, '\\'), (0x2F, '/'), (0x62, '\x08'), (0x66, '\x0C'), (0x6E, '\n'),
    (0x72, '\r'), (0x74, '\t')]

/-- The ways to write a character: as it is, behind a backslash, by its number, or by the two
surrogates of its number. -/
inductive SpelledChar : Char → List UInt8 → Prop where
  | plain (printable : 0x20 ≤ c.toNat) (unquoted : c ≠ '"') (unescaped : c ≠ '\\') :
      SpelledChar c (String.utf8EncodeChar c)
  | short (listed : (b, c) ∈ shortEscapes) : SpelledChar c [0x5C, b]
  | unit (number : HexUnit c.toNat digits) : SpelledChar c (0x5C :: 0x75 :: digits)
  | pair (large : 0x10000 ≤ c.toNat)
      (high : HexUnit (0xD800 + (c.toNat - 0x10000) / 0x400) front)
      (low : HexUnit (0xDC00 + (c.toNat - 0x10000) % 0x400) back) :
      SpelledChar c (0x5C :: 0x75 :: (front ++ 0x5C :: 0x75 :: back))

/-- What may stand between two quotes, whether or not it denotes a text. -/
inductive LegalText : List UInt8 → Prop where
  | nil : LegalText []
  | plain (printable : 0x20 ≤ b) (unquoted : b ≠ 0x22) (unescaped : b ≠ 0x5C)
      (rest : LegalText bytes) : LegalText (b :: bytes)
  | short (listed : ∃ c, (b, c) ∈ shortEscapes) (rest : LegalText bytes) :
      LegalText (0x5C :: b :: bytes)
  | unit (number : HexUnit value digits) (rest : LegalText bytes) :
      LegalText (0x5C :: 0x75 :: (digits ++ bytes))

namespace Literal

/-- The literals of a text: its characters one after the other, each written in one of its ways. -/
def Denotes (literal : Literal) (text : String) : Prop :=
  ∃ parts, List.Forall₂ SpelledChar text.toList parts ∧ literal.bytes = parts.flatten

variable {text : String} {literal : Literal} {c : Char} {bytes part rest : List UInt8}

/-! ### Reading -/

theorem hexValue?_of_hexDigit (digit : HexDigit value b) : hexValue? b = some value := by
  simp only [hexValue?, UInt8.le_iff_toNat_le, UInt8.reduceToNat]
  cases digit with
  | decimal small writes =>
    rw [if_pos (by omega), writes, Nat.add_sub_cancel_left]
  | upper large bounded writes =>
    rw [if_neg (by omega), if_pos (by omega), writes, Nat.add_sub_cancel_left,
      Nat.sub_add_cancel large]
  | lower large bounded writes =>
    rw [if_neg (by omega), if_neg (by omega), if_pos (by omega), writes, Nat.add_sub_cancel_left,
      Nat.sub_add_cancel large]

theorem exists_hexUnit? (unit : HexUnit value bytes) :
    ∃ a b c d, bytes = [a, b, c, d] ∧ hexUnit? a b c d = some value := by
  cases unit with
  | digits first second third fourth number =>
    refine ⟨_, _, _, _, rfl, ?_⟩
    simp only [hexUnit?, hexValue?_of_hexDigit first, hexValue?_of_hexDigit second,
      hexValue?_of_hexDigit third, hexValue?_of_hexDigit fourth, Option.bind_eq_bind,
      Option.bind_some, Option.pure_def]
    exact congrArg some (by omega)

theorem unescape_cons (unescaped : b ≠ 0x5C) :
    unescape (b :: rest) = (unescape rest).map (b :: ·) := by
  rw [unescape]
  · cases unescape rest <;> rfl
  all_goals
    intros
    contradiction

theorem unescape_append (plain : ∀ b ∈ bytes, b ≠ 0x5C) :
    unescape (bytes ++ rest) = (unescape rest).map (bytes ++ ·) := by
  induction bytes with
  | nil => simp
  | cons b bytes ih =>
    rw [List.forall_mem_cons] at plain
    rw [List.cons_append, unescape_cons plain.1, ih plain.2, Option.map_map]
    rfl

theorem shortEscape?_of_listed (listed : (b, c) ∈ shortEscapes) :
    b ≠ 0x75 ∧ ∃ code, shortEscape? b = some code ∧ String.utf8EncodeChar c = [code] := by
  simp only [shortEscapes, List.mem_cons, Prod.mk.injEq, List.not_mem_nil, or_false] at listed
  rcases listed with ⟨rfl, rfl⟩ | ⟨rfl, rfl⟩ | ⟨rfl, rfl⟩ | ⟨rfl, rfl⟩ | ⟨rfl, rfl⟩ | ⟨rfl, rfl⟩ |
    ⟨rfl, rfl⟩ | ⟨rfl, rfl⟩ <;> exact ⟨by decide, _, rfl, rfl⟩

theorem unescape_short (listed : (b, c) ∈ shortEscapes) :
    unescape (0x5C :: b :: rest) = (unescape rest).map (String.utf8EncodeChar c ++ ·) := by
  obtain ⟨single, code, resolved, writes⟩ := shortEscape?_of_listed listed
  rw [unescape, resolved, writes]
  · cases unescape rest <;> rfl
  · intros
    contradiction

theorem unescape_unit (unit : HexUnit value bytes) (whole : value < 0xD800 ∨ 0xDFFF < value)
    (rest : List UInt8) :
    unescape (0x5C :: 0x75 :: (bytes ++ rest)) =
      (unescape rest).map (String.utf8EncodeChar (Char.ofNat value) ++ ·) := by
  obtain ⟨a, b, c, d, rfl, read⟩ := exists_hexUnit? unit
  simp only [List.cons_append, List.nil_append]
  rw [unescape, read, Option.bind_eq_bind, Option.bind_some, if_pos whole]
  cases unescape rest <;> rfl

theorem unescape_pair {front back : List UInt8} {offset : Nat} (bounded : offset < 0x100000)
    (high : HexUnit (0xD800 + offset / 0x400) front) (low : HexUnit (0xDC00 + offset % 0x400) back)
    (rest : List UInt8) :
    unescape (0x5C :: 0x75 :: (front ++ 0x5C :: 0x75 :: (back ++ rest))) =
      (unescape rest).map (String.utf8EncodeChar (Char.ofNat (0x10000 + offset)) ++ ·) := by
  obtain ⟨a, b, c, d, rfl, read⟩ := exists_hexUnit? high
  obtain ⟨e, f, g, h, rfl, read'⟩ := exists_hexUnit? low
  have paired : pairedUnits? (0xD800 + offset / 0x400) (0xDC00 + offset % 0x400) =
      some (0x10000 + offset) := by
    rw [pairedUnits?, if_pos (by omega)]
    exact congrArg some (by omega)
  simp only [List.cons_append, List.nil_append]
  rw [unescape, read, Option.bind_eq_bind, Option.bind_some, if_neg (by omega), if_neg (by omega)]
  simp only [read', paired, Option.bind_some]
  cases unescape rest <;> rfl

/-- The bytes of a character are its number alone, or are all above the numbers that stand alone. -/
theorem cases_of_mem_utf8EncodeChar {b : UInt8} (member : b ∈ String.utf8EncodeChar c) :
    b.toNat = c.toNat ∨ 0x80 ≤ b.toNat := by
  have number : c.val.toNat = c.toNat := rfl
  simp only [String.utf8EncodeChar, number] at member
  split at member
  · left
    rw [List.mem_singleton] at member
    rw [member, UInt8.toNat_ofNat']
    omega
  · right
    split at member
    · simp only [List.mem_cons, List.not_mem_nil, or_false] at member
      rcases member with rfl | rfl <;> rw [UInt8.toNat_ofNat'] <;> omega
    · split at member
      · simp only [List.mem_cons, List.not_mem_nil, or_false] at member
        rcases member with rfl | rfl | rfl <;> rw [UInt8.toNat_ofNat'] <;> omega
      · simp only [List.mem_cons, List.not_mem_nil, or_false] at member
        rcases member with rfl | rfl | rfl | rfl <;> rw [UInt8.toNat_ofNat'] <;> omega

theorem plain_of_mem_utf8EncodeChar {b : UInt8} (printable : 0x20 ≤ c.toNat) (unquoted : c ≠ '"')
    (unescaped : c ≠ '\\') (member : b ∈ String.utf8EncodeChar c) :
    0x20 ≤ b ∧ b ≠ 0x22 ∧ b ≠ 0x5C := by
  have apart {other : Char} (differs : c ≠ other) : c.toNat ≠ other.toNat :=
    fun same => differs (Char.toNat_inj.mp same)
  have quote : c.toNat ≠ 0x22 := apart unquoted
  have backslash : c.toNat ≠ 0x5C := apart unescaped
  simp only [UInt8.le_iff_toNat_le, ne_eq, ← UInt8.toNat_inj, UInt8.reduceToNat]
  rcases cases_of_mem_utf8EncodeChar member with same | above <;> omega

theorem unescape_spelledChar (spelled : SpelledChar c part) :
    unescape (part ++ rest) = (unescape rest).map (String.utf8EncodeChar c ++ ·) := by
  cases spelled with
  | plain printable unquoted unescaped =>
    apply unescape_append
    intro b member
    exact (plain_of_mem_utf8EncodeChar printable unquoted unescaped member).2.2
  | short listed => exact unescape_short listed
  | unit number =>
    have read := unescape_unit number (c.valid.imp_right And.left) rest
    rwa [Char.ofNat_toNat] at read
  | pair large high low =>
    have bounded : c.toNat - 0x10000 < 0x100000 := by
      have bounded : c.toNat < 0xD800 ∨ 0xDFFF < c.toNat ∧ c.toNat < 0x110000 := c.valid
      omega
    have read := unescape_pair bounded high low rest
    rw [Nat.add_sub_cancel' large, Char.ofNat_toNat] at read
    rwa [List.cons_append, List.cons_append, List.append_assoc]

theorem unescape_flatten {chars : List Char} {parts : List (List UInt8)}
    (spelled : List.Forall₂ SpelledChar chars parts) :
    unescape parts.flatten = some (chars.flatMap String.utf8EncodeChar) := by
  induction spelled with
  | nil => rfl
  | cons first _ ih =>
    rw [List.flatten_cons, unescape_spelledChar first, ih]
    rfl

theorem fromUTF8?_flatMap (text : String) :
    String.fromUTF8? ⟨(text.toList.flatMap String.utf8EncodeChar).toArray⟩ = some text := by
  have whole : (⟨(text.toList.flatMap String.utf8EncodeChar).toArray⟩ : ByteArray) =
      text.toByteArray :=
    ByteArray.ext (Text.data_toByteArray text).symm
  rw [whole, String.fromUTF8?, dif_pos text.isValidUTF8]
  rfl

/-- A literal has the text that it denotes. -/
theorem decode?_of_denotes (denotes : literal.Denotes text) : literal.decode? = some text := by
  obtain ⟨parts, spelled, same⟩ := denotes
  rw [decode?, same, unescape_flatten spelled]
  exact fromUTF8?_flatMap text

/-! ### What may stand between quotes -/

theorem legalText_append (plain : ∀ b ∈ bytes, 0x20 ≤ b ∧ b ≠ 0x22 ∧ b ≠ 0x5C)
    (legal : LegalText rest) : LegalText (bytes ++ rest) := by
  induction bytes with
  | nil => exact legal
  | cons b bytes ih =>
    rw [List.forall_mem_cons] at plain
    obtain ⟨⟨printable, unquoted, unescaped⟩, others⟩ := plain
    exact .plain printable unquoted unescaped (ih others)

theorem legalText_spelledChar (spelled : SpelledChar c part) (legal : LegalText rest) :
    LegalText (part ++ rest) := by
  cases spelled with
  | plain printable unquoted unescaped =>
    exact legalText_append (fun b => plain_of_mem_utf8EncodeChar printable unquoted unescaped) legal
  | short listed => exact .short ⟨c, listed⟩ legal
  | unit number => exact .unit number legal
  | pair _ high low =>
    rw [List.cons_append, List.cons_append, List.append_assoc]
    exact .unit high (.unit low legal)

theorem legalText_flatten {chars : List Char} {parts : List (List UInt8)}
    (spelled : List.Forall₂ SpelledChar chars parts) : LegalText parts.flatten := by
  induction spelled with
  | nil => exact .nil
  | cons first _ ih => exact legalText_spelledChar first ih

theorem legalText_of_denotes (denotes : literal.Denotes text) : LegalText literal.bytes := by
  obtain ⟨parts, spelled, same⟩ := denotes
  rw [same]
  exact legalText_flatten spelled

/-! ### Writing -/

theorem hexDigit_hexDigit (bounded : value < 16) : HexDigit value (hexDigit value) := by
  unfold hexDigit
  split
  · rename_i small
    exact .decimal small (by simp; omega)
  · rename_i large
    exact .lower (by omega) bounded (by simp; omega)

theorem spelledChar_encodeChar (c : Char) : SpelledChar c (encodeChar c) := by
  unfold encodeChar
  split_ifs with quote backslash backspace feed newline carriage tab control
  any_goals
    subst c
    exact .short (by decide)
  · have unit : HexUnit c.toNat [0x30, 0x30, hexDigit (c.toNat / 16), hexDigit (c.toNat % 16)] := by
      have zero : HexDigit 0 0x30 := .decimal (by decide) rfl
      have high : HexDigit (c.toNat / 16) (hexDigit (c.toNat / 16)) := hexDigit_hexDigit (by omega)
      have low : HexDigit (c.toNat % 16) (hexDigit (c.toNat % 16)) := hexDigit_hexDigit (by omega)
      exact .digits zero zero high low (by omega)
    exact .unit unit
  · exact .plain (Nat.le_of_not_lt control) quote backslash

theorem denotes_encode (text : String) : (encode text).Denotes text := by
  refine ⟨text.toList.map encodeChar, ?_, List.flatMap_def ..⟩
  rw [List.forall₂_map_right_iff, List.forall₂_same]
  intro c _
  exact spelledChar_encodeChar c

end Literal

end CoupledFs.Json
