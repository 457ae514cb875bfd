import Mathlib.Tactic.SplitIfs

/-! The order of texts. Comparing texts by the bytes of their UTF-8 encoding comes to the same as
comparing them by their code points. -/

namespace CoupledFs.Text

/-! ### Codes in order -/

/-- A code for the numbers below a bound that keeps them in order, whatever follows. -/
def InOrder (code : Nat → List UInt8) (bound : Nat) : Prop :=
  ∀ ⦃m n⦄, m < n → n < bound → ∀ x y, code m ++ x < code n ++ y

theorem ofNat_lt_ofNat {m n : Nat} (less : m < n) (small : n < 256) :
    UInt8.ofNat m < UInt8.ofNat n := by
  rw [UInt8.lt_iff_toNat_lt, UInt8.toNat_ofNat', UInt8.toNat_ofNat']
  omega

theorem inOrder_lead (bound offset : Nat) (fits : bound + offset ≤ 256) :
    InOrder (fun v => [UInt8.ofNat (v % bound + offset)]) bound := by
  intro m n less small x y
  refine List.cons_lt_cons_iff.mpr (.inl (ofNat_lt_ofNat ?_ ?_))
  · rw [Nat.mod_eq_of_lt (Nat.lt_trans less small), Nat.mod_eq_of_lt small]
    omega
  · rw [Nat.mod_eq_of_lt small]
    omega

theorem InOrder.continued {code : Nat → List UInt8} {bound : Nat} (ordered : InOrder code bound) :
    InOrder (fun v => code (v / 64) ++ [UInt8.ofNat (v % 64 + 128)]) (64 * bound) := by
  intro m n less small x y
  have front : m / 64 < n / 64 ∨ m / 64 = n / 64 ∧ m % 64 < n % 64 := by omega
  simp only [List.append_assoc]
  rcases front with front | ⟨same, last⟩
  · exact ordered front (by omega) _ _
  · rw [same]
    refine List.append_left_lt (List.cons_lt_cons_iff.mpr (.inl ?_))
    exact ofNat_lt_ofNat (by omega) (by omega)

/-! ### UTF-8 -/

/-- The encoding of a character comes before that of any later one, whatever follows. -/
theorem utf8EncodeChar_append_lt {c d : Char} (less : c < d) (x y : List UInt8) :
    String.utf8EncodeChar c ++ x < String.utf8EncodeChar d ++ y := by
  have two := (inOrder_lead 32 192 (by decide)).continued
  have three := (inOrder_lead 16 224 (by decide)).continued.continued
  have four := (inOrder_lead 8 240 (by decide)).continued.continued.continued
  simp only [Nat.div_div_eq_div_mul] at three four
  have less : c.val.toNat < d.val.toNat := less
  have small : d.val.toNat < 0x110000 := by
    rcases d.valid with low | high <;> omega
  simp only [String.utf8EncodeChar]
  generalize c.val.toNat = m at less
  generalize d.val.toNat = n at less small
  -- Encodings of one length differ in a digit; of different lengths, already in the first byte.
  split_ifs <;> first
    | omega
    | exact List.cons_lt_cons_iff.mpr (.inl (ofNat_lt_ofNat (by omega) (by omega)))
    | exact two less (by omega) x y
    | exact three less (by omega) x y
    | exact four less (by omega) x y

theorem flatMap_utf8EncodeChar_lt {a b : List Char} (less : a < b) :
    a.flatMap String.utf8EncodeChar < b.flatMap String.utf8EncodeChar := by
  induction a generalizing b with
  | nil =>
    cases b with
    | nil => exact absurd less (List.lt_irrefl [])
    | cons d b =>
      obtain ⟨byte, bytes, code⟩ :=
        List.exists_cons_of_ne_nil (String.utf8EncodeChar_ne_nil (c := d))
      rw [List.flatMap_nil, List.flatMap_cons, code]
      exact List.nil_lt_cons byte _
  | cons c a ih =>
    cases b with
    | nil => exact absurd less (List.not_lt_nil _)
    | cons d b =>
      rw [List.flatMap_cons, List.flatMap_cons]
      rcases List.cons_lt_cons_iff.mp less with first | ⟨rfl, rest⟩
      · exact utf8EncodeChar_append_lt first _ _
      · exact List.append_left_lt (ih rest)

theorem flatMap_utf8EncodeChar_lt_iff {a b : List Char} :
    a.flatMap String.utf8EncodeChar < b.flatMap String.utf8EncodeChar ↔ a < b := by
  constructor
  · intro less
    rcases Std.lt_trichotomy a b with before | rfl | after
    · exact before
    · exact absurd less (List.lt_irrefl _)
    · exact absurd less (List.lt_asymm (flatMap_utf8EncodeChar_lt after))
  · exact flatMap_utf8EncodeChar_lt

theorem data_toByteArray (text : String) :
    text.toByteArray.data = (text.toList.flatMap String.utf8EncodeChar).toArray := by
  rw [← List.data_toByteArray]
  change _ = text.toList.utf8Encode.data
  rw [← String.toByteArray_ofList, String.ofList_toList]

/-- The order of texts is the order of their bytes. -/
theorem toUTF8_lt_iff {a b : String} :
    a.toUTF8.data.toList < b.toUTF8.data.toList ↔ a < b := by
  rw [String.toUTF8_eq_toByteArray, String.toUTF8_eq_toByteArray, data_toByteArray,
    data_toByteArray, String.lt_iff]
  exact flatMap_utf8EncodeChar_lt_iff

end CoupledFs.Text
