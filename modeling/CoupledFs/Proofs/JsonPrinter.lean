import CoupledFs.Json.Print
import CoupledFs.Proofs.JsonReader
import Mathlib.Tactic.IntervalCases

/-! Writing documents. In any layout that puts nothing but space between tokens, what is written for
a value spells it out. -/

namespace CoupledFs.Json

theorem Blank.append (front : Blank space) (back : Blank space') : Blank (space ++ space') :=
  List.forall_mem_append.mpr ⟨front, back⟩

/-! ### Joining documents -/

namespace Spells

variable {tokens tokens' : List Token} {bytes bytes' : List UInt8}

theorem blank_append (blank : Blank space) (spelled : Spells tokens bytes) :
    Spells tokens (space ++ bytes) := by
  cases spelled with
  | done blank' => exact .done (blank.append blank')
  | token blank' legal rest =>
    rw [← List.append_assoc]
    exact .token (blank.append blank') legal rest

theorem append (front : Spells tokens bytes) (back : Spells tokens' bytes') :
    Spells (tokens ++ tokens') (bytes ++ bytes') := by
  induction front with
  | done blank => exact back.blank_append blank
  | token blank legal _ ih =>
    rw [List.append_assoc, List.append_assoc]
    exact .token blank legal ih

theorem single (token : Token) (legal : token.Legal) : Spells [token] token.bytes := by
  have spelled : Spells [token] ([] ++ (token.bytes ++ [])) :=
    .token (List.forall_mem_nil _) legal (.done (List.forall_mem_nil _))
  rwa [List.nil_append, List.append_nil] at spelled

end Spells

/-! ### Layouts -/

/-- A layout that puts nothing but space between tokens. -/
structure Layout.Lawful (layout : Layout) : Prop where
  line : ∀ depth, Blank (layout.lineStart depth)
  colon : Spells [.colon] layout.colon

namespace Layout

theorem lawful_compact : compact.Lawful where
  line _ := List.forall_mem_nil _
  colon := .single .colon trivial

theorem lawful_indented : indented.Lawful where
  line depth := by
    intro b member
    rcases List.mem_cons.mp member with newline | space
    · exact .inr (.inr (.inl newline))
    · exact .inl (List.eq_of_mem_replicate space)
  colon := by
    have space : Blank [0x20] := List.forall_mem_singleton.mpr (.inl rfl)
    exact .append (.single .colon trivial) (.done space)

variable {layout : Layout} {first last : Token} {parts : List (List Token)}
  {texts : List (List UInt8)}

theorem spells_flatMap (blank : Blank space) (spelled : List.Forall₂ Spells parts texts) :
    Spells (parts.flatMap (.comma :: ·)) (texts.flatMap fun text => 0x2C :: (space ++ text)) := by
  induction spelled with
  | nil => exact .done (List.forall_mem_nil _)
  | cons part _ ih =>
    rw [List.flatMap_cons, List.flatMap_cons]
    exact ((Spells.single .comma trivial).append (part.blank_append blank)).append ih

/-- Where the parts of a container are spelled out, the container is. -/
theorem spells_enclose (lawful : layout.Lawful) (depth : Nat) {front back : UInt8}
    (opens : Spells [first] [front]) (closes : Spells [last] [back])
    (spelled : List.Forall₂ Spells parts texts) :
    Spells (Token.enclose first last parts) (layout.enclose depth front back texts) := by
  cases spelled with
  | nil => exact opens.append closes
  | cons part others =>
    have inside := part.blank_append (lawful.line (depth + 1))
    have behind := spells_flatMap (lawful.line (depth + 1)) others
    have ends := closes.blank_append (lawful.line depth)
    have whole := opens.append (inside.append (behind.append ends))
    simpa only [Token.enclose, enclose, List.append_assoc, List.cons_append, List.nil_append]
      using whole

end Layout

/-! ### Values -/

theorem writeItems_eq_map (layout : Layout) (depth : Nat) (items : List Value) :
    writeItems layout depth items = items.map (Value.write layout depth) := by
  induction items with
  | nil => rfl
  | cons item items ih => rw [writeItems, ih, List.map_cons]

theorem writeMembers_eq_map (layout : Layout) (depth : Nat) (members : List (Literal × Value)) :
    writeMembers layout depth members =
      members.map fun member => inQuotes member.1 ++ layout.colon ++ member.2.write layout depth := by
  induction members with
  | nil => rfl
  | cons member members ih => rw [writeMembers, ih, List.map_cons]

/-- A value of which every numeral and every text may be written. -/
inductive Value.Legal : Value → Prop where
  | null : Value.Legal .null
  | bool (value : Bool) : Value.Legal (.bool value)
  | number (numeral : Numeral bytes) : Value.Legal (.number bytes)
  | text (legal : LegalText literal.bytes) : Value.Legal (.text literal)
  | array (items : ∀ item ∈ values, Value.Legal item) : Value.Legal (.array values)
  | object (names : ∀ member ∈ members, LegalText (Prod.fst member).bytes)
      (values : ∀ member ∈ members, Value.Legal member.2) : Value.Legal (.object members)

theorem spells_inQuotes {literal : Literal} (legal : LegalText literal.bytes) :
    Spells [.text literal] (inQuotes literal) :=
  .single (.text literal) legal

/-- What is written for a value is a document of it. -/
theorem written_write {layout : Layout} (lawful : layout.Lawful) {value : Value}
    (legal : value.Legal) (depth : Nat) : value.Written (value.write layout depth) := by
  induction legal generalizing depth with
  | null => exact .single .null trivial
  | bool value =>
    cases value with
    | true => exact .single (.bool true) trivial
    | false => exact .single (.bool false) trivial
  | number numeral => exact .single (.number _) numeral
  | text legal => exact spells_inQuotes legal
  | array _ ih =>
    rw [Value.Written, Value.tokens, Value.write, itemTokens_eq_map, writeItems_eq_map]
    apply Layout.spells_enclose lawful depth (.single .openArray trivial)
      (.single .closeArray trivial)
    rw [List.forall₂_map_left_iff, List.forall₂_map_right_iff, List.forall₂_same]
    intro item present
    exact ih item present (depth + 1)
  | object names _ ih =>
    rw [Value.Written, Value.tokens, Value.write, memberTokens_eq_map, writeMembers_eq_map]
    apply Layout.spells_enclose lawful depth (.single .openObject trivial)
      (.single .closeObject trivial)
    rw [List.forall₂_map_left_iff, List.forall₂_map_right_iff, List.forall₂_same]
    intro member present
    have named := (spells_inQuotes (names member present)).append lawful.colon
    exact named.append (ih member present (depth + 1))

/-! ### Decimal numbers -/

def decimal (n : Nat) : List UInt8 := (Nat.toDigits 10 n).flatMap String.utf8EncodeChar

theorem decimal_of_lt (small : n < 10) : decimal n = [UInt8.ofNat (0x30 + n)] := by
  rw [decimal, Nat.toDigits_of_lt_base small]
  interval_cases n <;> rfl

theorem decimal_of_le (large : 10 ≤ n) : decimal n = decimal (n / 10) ++ decimal (n % 10) := by
  have last := Nat.toDigits_of_lt_base (Nat.mod_lt n (by decide : 0 < 10))
  rw [decimal, Nat.toDigits_of_base_le (by decide) large, List.flatMap_append, ← last]
  rfl

theorem decimal_induct {motive : Nat → Prop} (digit : ∀ n, n < 10 → motive n)
    (more : ∀ n, 10 ≤ n → motive (n / 10) → motive n) (n : Nat) : motive n := by
  induction n using Nat.strong_induction_on with
  | h n ih =>
    by_cases small : n < 10
    · exact digit n small
    · exact more n (not_lt.mp small) (ih (n / 10) (by omega))

theorem toNat_digit (small : n < 10) : (UInt8.ofNat (0x30 + n)).toNat = 0x30 + n := by
  rw [UInt8.toNat_ofNat']
  omega

theorem isDigit_of_mem_decimal (member : b ∈ decimal n) : IsDigit b := by
  have digit {n : Nat} (small : n < 10) (member : b ∈ decimal n) : IsDigit b := by
    rw [decimal_of_lt small, List.mem_singleton] at member
    rw [IsDigit, UInt8.le_iff_toNat_le, UInt8.le_iff_toNat_le, member, toNat_digit small]
    exact ⟨Nat.le_add_right _ _, Nat.add_le_add_left (Nat.le_of_lt_succ small) _⟩
  induction n using decimal_induct with
  | digit n small => exact digit small member
  | more n large ih =>
    rw [decimal_of_le large, List.mem_append] at member
    exact member.elim ih (digit (Nat.mod_lt n (by decide)))

/-- Only zero begins with a zero. -/
theorem exists_decimal_of_pos (positive : 0 < n) : ∃ b rest, decimal n = b :: rest ∧ b ≠ 0x30 := by
  induction n using decimal_induct with
  | digit n small =>
    refine ⟨_, [], decimal_of_lt small, ?_⟩
    intro zero
    have number := congrArg UInt8.toNat zero
    rw [toNat_digit small] at number
    exact absurd number (Nat.ne_of_gt (Nat.lt_add_of_pos_right positive))
  | more n large ih =>
    obtain ⟨b, rest, same, nonzero⟩ := ih (Nat.div_pos large (by decide))
    refine ⟨b, rest ++ decimal (n % 10), ?_, nonzero⟩
    rw [decimal_of_le large, same, List.cons_append]

theorem whole_decimal (n : Nat) : Whole (decimal n) := by
  rcases Nat.eq_zero_or_pos n with rfl | positive
  · exact .zero
  · obtain ⟨b, rest, same, nonzero⟩ := exists_decimal_of_pos positive
    have digits : ∀ c ∈ b :: rest, IsDigit c := by
      intro c member
      exact isDigit_of_mem_decimal (same ▸ member)
    obtain ⟨first, others⟩ := List.forall_mem_cons.mp digits
    rw [same]
    exact .digits first nonzero others

theorem numeral_decimal (n : Nat) : Numeral (decimal n) := by
  have numeral : Numeral (decimal n ++ ([] ++ [])) := .positive (whole_decimal n) .absent .absent
  rwa [List.append_nil, List.append_nil] at numeral

theorem foldl_decimal (n : Nat) :
    (decimal n).foldl (fun n b => 10 * n + (b.toNat - 0x30)) 0 = n := by
  induction n using decimal_induct with
  | digit n small =>
    rw [decimal_of_lt small, List.foldl_cons, List.foldl_nil, toNat_digit small]
    omega
  | more n large ih =>
    have last : n % 10 < 10 := Nat.mod_lt n (by decide)
    rw [decimal_of_le large, List.foldl_append, ih, decimal_of_lt last, List.foldl_cons,
      List.foldl_nil, toNat_digit last]
    omega

theorem natBelow?_ofNat (small : n < bound) : (Value.ofNat n).natBelow? bound = some n := by
  have digits : ((decimal n).all fun b => 0x30 ≤ b && b ≤ 0x39) = true := by
    rw [List.all_eq_true]
    intro b member
    simpa [IsDigit] using isDigit_of_mem_decimal member
  change (Value.number (decimal n)).natBelow? bound = some n
  rw [Value.natBelow?, if_pos digits, foldl_decimal]
  simp [small]

end CoupledFs.Json
