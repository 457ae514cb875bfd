import CoupledFs.Proofs.JsonGrammar
import Mathlib.Data.List.Chain

/-! Reading documents. Scanning a document finds the tokens that it spells out, one after the other,
and reading the tokens of a value builds that value, whatever stands around it; so every document of
a value is read as that value. -/

namespace CoupledFs.Json

/-! ### Numerals -/

namespace NumeralStage

variable {stage : NumeralStage} {bytes front middle back rest : List UInt8}

/-- Whether some bytes lead from a stage to the end of a numeral. -/
def Completes (stage : NumeralStage) (bytes : List UInt8) : Prop :=
  ∃ last, bytes.foldlM next? stage = some last ∧ last.isComplete = true

theorem Completes.cons (next : stage.next? b = some later) (completes : later.Completes bytes) :
    stage.Completes (b :: bytes) := by
  obtain ⟨last, leads, complete⟩ := completes
  refine ⟨last, ?_, complete⟩
  rw [List.foldlM_cons, next]
  exact leads

theorem completes_nil (complete : stage.isComplete = true) : stage.Completes [] :=
  ⟨stage, rfl, complete⟩

/-- The stage that one or more digits lead to, where any digits may stand. -/
def onDigits? : NumeralStage → Option NumeralStage
  | sign | zero => none
  | integer => some integer
  | point | fraction => some fraction
  | exponent | exponentSign | exponentDigits => some exponentDigits

theorem onDigits?_self (takes : stage.onDigits? = some later) : later.onDigits? = some later := by
  cases stage <;> cases takes <;> rfl

theorem isDigitByte_of_isDigit (digit : IsDigit b) : isDigitByte b = true := by
  simpa [isDigitByte, IsDigit] using digit

theorem next?_of_digit (takes : stage.onDigits? = some later) (digit : IsDigit b) :
    stage.next? b = some later := by
  cases stage <;> cases takes <;> rw [next?, if_pos (isDigitByte_of_isDigit digit)]

theorem Completes.digits_append (takes : stage.onDigits? = some stage)
    (digits : ∀ b ∈ front, IsDigit b) (completes : stage.Completes back) :
    stage.Completes (front ++ back) := by
  induction front with
  | nil => exact completes
  | cons b front ih =>
    rw [List.forall_mem_cons] at digits
    exact .cons (next?_of_digit takes digits.1) (ih digits.2)

theorem Completes.of_digits (takes : stage.onDigits? = some later) (digits : Digits front)
    (completes : later.Completes back) : stage.Completes (front ++ back) := by
  obtain ⟨nonempty, digits⟩ := digits
  cases front with
  | nil => contradiction
  | cons b front =>
    rw [List.forall_mem_cons] at digits
    exact .cons (next?_of_digit takes digits.1)
      (.digits_append (onDigits?_self takes) digits.2 completes)

theorem completes_exponent (complete : stage.isComplete = true)
    (next : ∀ e, e = 0x65 ∨ e = 0x45 → stage.next? e = some .exponent) (exponent : Exponent bytes) :
    stage.Completes bytes := by
  have powers {stage : NumeralStage} {bytes : List UInt8} (power : Digits bytes)
      (takes : stage.onDigits? = some exponentDigits) : stage.Completes bytes := by
    rw [← List.append_nil bytes]
    exact .of_digits takes power (completes_nil rfl)
  cases exponent with
  | absent => exact completes_nil complete
  | digits marked power => exact .cons (next _ marked) (powers power rfl)
  | @signed _ s _ marked sign power =>
    have signs : NumeralStage.exponent.next? s = some exponentSign := by
      rcases sign with rfl | rfl <;> rfl
    exact .cons (next _ marked) (.cons signs (powers power rfl))

theorem completes_fraction (whole : stage = zero ∨ stage = integer) (fraction : Fraction middle)
    (exponent : Exponent back) : stage.Completes (middle ++ back) := by
  cases fraction with
  | absent =>
    refine completes_exponent ?_ ?_ exponent
    · rcases whole with rfl | rfl <;> rfl
    · rcases whole with rfl | rfl <;> rintro e (rfl | rfl) <;> rfl
  | digits places =>
    have fractional : NumeralStage.fraction.Completes back := by
      refine completes_exponent rfl ?_ exponent
      rintro e (rfl | rfl) <;> rfl
    have pointed : stage.next? 0x2E = some point := by
      rcases whole with rfl | rfl <;> rfl
    exact .cons pointed (.of_digits rfl places fractional)

/-- The digits before the point lead as far with a sign as without one. -/
theorem exists_start_of_whole (whole : Whole front)
    (tail : ∀ stage, stage = zero ∨ stage = integer → stage.Completes back) :
    ∃ b rest stage, front = b :: rest ∧ start? b = some stage ∧ sign.next? b = some stage ∧
      stage.Completes (rest ++ back) := by
  cases whole with
  | zero => exact ⟨_, _, zero, rfl, rfl, rfl, tail zero (.inl rfl)⟩
  | @digits b rest first nonzero others =>
    have unsigned : b ≠ 0x2D := by
      rintro rfl
      exact absurd first.1 (by decide)
    refine ⟨b, rest, integer, rfl, ?_, ?_, ?_⟩
    · rw [start?, if_neg unsigned, if_neg nonzero, if_pos (isDigitByte_of_isDigit first)]
    · rw [next?, if_neg nonzero, if_pos (isDigitByte_of_isDigit first)]
    · exact .digits_append rfl others (tail integer (.inr rfl))

theorem exists_start_of_numeral (numeral : Numeral bytes) :
    ∃ b rest stage, bytes = b :: rest ∧ start? b = some stage ∧ stage.Completes rest := by
  cases numeral with
  | positive whole fraction exponent =>
    obtain ⟨b, rest, stage, rfl, starts, -, completes⟩ :=
      exists_start_of_whole whole fun _ stage => completes_fraction stage fraction exponent
    exact ⟨b, _, stage, rfl, starts, completes⟩
  | negative whole fraction exponent =>
    obtain ⟨b, rest, stage, rfl, -, next, completes⟩ :=
      exists_start_of_whole whole fun _ stage => completes_fraction stage fraction exponent
    exact ⟨_, _, sign, rfl, rfl, .cons next completes⟩

end NumeralStage

/-! ### Scanning -/

namespace Token

def IsNumeral : Token → Prop
  | number _ => True
  | _ => False

/-- Whether a token stands between values, or around them. -/
def IsMark : Token → Prop
  | openArray | closeArray | openObject | closeObject | comma | colon => True
  | null | bool _ | number _ | text _ => False

end Token

/-- Whether no numeral goes on with what comes next. -/
def EndsNumeral (rest : List UInt8) : Prop :=
  ∀ b ∈ rest.head?, ∀ stage : NumeralStage, stage.next? b = none

namespace Scan

variable {scan later : Scan} {found : List Token} {written bytes rest : List UInt8}

theorem run_of_step (stepped : scan.step b = some (later, found)) :
    run scan (b :: rest) = (run later rest).map (found ++ ·) := by
  simp only [run, stepped, Option.bind_eq_bind, Option.bind_some]
  cases run later rest <;> rfl

theorem run_of_silent (stepped : scan.step b = some (later, [])) :
    run scan (b :: rest) = run later rest := by
  rw [run_of_step stepped]
  exact Option.map_id'

theorem run_blank (blank : Blank bytes) : run between (bytes ++ rest) = run between rest := by
  induction bytes with
  | nil => rfl
  | cons b bytes ih =>
    obtain ⟨space, others⟩ := List.forall_mem_cons.mp blank
    have stays : between.step b = some (between, []) := by
      rcases space with rfl | rfl | rfl | rfl <;> rfl
    rw [List.cons_append, run_of_silent stays, ih others]

theorem run_number (leads : bytes.foldlM NumeralStage.next? stage = some last) :
    run (number written stage) (bytes ++ rest) =
      run (number (bytes.reverse ++ written) last) rest := by
  induction bytes generalizing stage written with
  | nil =>
    cases leads
    rfl
  | cons b bytes ih =>
    rw [List.foldlM_cons] at leads
    obtain ⟨next, goes, leads⟩ := Option.bind_eq_some_iff.mp leads
    have stepped : (number written stage).step b = some (number (b :: written) next, []) := by
      rw [step, goes]
    rw [List.cons_append, run_of_silent stepped, ih leads, List.reverse_cons, List.append_assoc]
    rfl

theorem run_number_end (complete : stage.isComplete = true) (ends : EndsNumeral rest) :
    run (number written stage) rest = (run between rest).map (.number written.reverse :: ·) := by
  cases rest with
  | nil =>
    rw [run, finish, if_pos complete]
    rfl
  | cons b rest =>
    -- The byte that ends the numeral is the first of what comes next, so one step does both.
    have stepped : (number written stage).step b =
        (start? b).map fun found => (found.1, .number written.reverse :: found.2) := by
      rw [step, ends b rfl stage]
      exact if_pos complete
    have begins : between.step b = start? b := rfl
    rw [run, run, stepped, begins]
    cases start? b with
    | none => rfl
    | some found =>
      simp only [Option.map_some, Option.bind_eq_bind, Option.bind_some]
      cases run found.1 rest <;> rfl

theorem start?_of_numeral (starts : NumeralStage.start? b = some stage) :
    start? b = some (number [b] stage, []) := by
  have inside : 0x2D ≤ b.toNat ∧ b.toNat ≤ 0x39 := by
    unfold NumeralStage.start? at starts
    split_ifs at starts with minus zero digit
    · simp [minus]
    · simp [zero]
    · simp only [NumeralStage.isDigitByte, Bool.and_eq_true, decide_eq_true_eq,
        UInt8.le_iff_toNat_le, UInt8.reduceToNat] at digit
      omega
  have differs {other : UInt8} (outside : other.toNat < 0x2D ∨ 0x39 < other.toNat) : b ≠ other := by
    rintro rfl
    omega
  have space : isSpaceByte b = false := by
    simp [isSpaceByte, differs]
  simp [start?, space, differs, starts]

theorem run_numeral (numeral : Numeral bytes) (ends : EndsNumeral rest) :
    run between (bytes ++ rest) = (run between rest).map (.number bytes :: ·) := by
  obtain ⟨b, others, stage, rfl, starts, last, leads, complete⟩ :=
    NumeralStage.exists_start_of_numeral numeral
  have stepped : between.step b = some (number [b] stage, []) := start?_of_numeral starts
  rw [List.cons_append, run_of_silent stepped, run_number leads, run_number_end complete ends]
  simp

theorem step_hex (digit : HexDigit value b) :
    (hex written (left + 1)).step b = some (hex (b :: written) left, []) := by
  rw [step, Literal.hexValue?_of_hexDigit digit]
  rfl

theorem step_hex_last (digit : HexDigit value b) :
    (hex written 0).step b = some (text (b :: written), []) := by
  rw [step, Literal.hexValue?_of_hexDigit digit]
  rfl

theorem run_text (legal : LegalText bytes) : run (text written) (bytes ++ 0x22 :: rest) =
    (run between rest).map (.text ⟨written.reverse ++ bytes⟩ :: ·) := by
  induction legal generalizing written with
  | nil =>
    have closes : (text written).step 0x22 = some (between, [.text ⟨written.reverse⟩]) := rfl
    rw [List.nil_append, run_of_step closes, List.append_nil]
    rfl
  | @plain b bytes printable unquoted unescaped _ ih =>
    have stepped : (text written).step b = some (text (b :: written), []) := by
      rw [step, if_neg unquoted, if_neg unescaped, if_neg (UInt8.not_lt.mpr printable)]
    rw [List.cons_append, run_of_silent stepped, ih]
    simp
  | @short b bytes listed _ ih =>
    obtain ⟨c, listed⟩ := listed
    obtain ⟨single, code, known, -⟩ := Literal.shortEscape?_of_listed listed
    have opens : (text written).step 0x5C = some (escape (0x5C :: written), []) := rfl
    have stepped : (escape (0x5C :: written)).step b = some (text (b :: 0x5C :: written), []) := by
      rw [step, if_neg single, known, Option.isSome_some, if_pos rfl]
    rw [List.cons_append, List.cons_append, run_of_silent opens, run_of_silent stepped, ih]
    simp
  | @unit value digits bytes number _ ih =>
    have opens : (text written).step 0x5C = some (escape (0x5C :: written), []) := rfl
    have begins : (escape (0x5C :: written)).step 0x75 =
        some (hex (0x75 :: 0x5C :: written) 3, []) := rfl
    cases number with
    | digits first second third fourth =>
      rw [List.cons_append, List.cons_append, run_of_silent opens, run_of_silent begins]
      simp only [List.cons_append, List.nil_append]
      rw [run_of_silent (step_hex first), run_of_silent (step_hex second),
        run_of_silent (step_hex third), run_of_silent (step_hex_last fourth), ih]
      simp

theorem run_word (nonempty : bytes ≠ []) :
    run (word bytes token) (bytes ++ rest) = (run between rest).map (token :: ·) := by
  induction bytes with
  | nil => contradiction
  | cons b bytes ih =>
    cases bytes with
    | nil =>
      have ends : (word [b] token).step b = some (between, [token]) := if_pos rfl
      exact run_of_step ends
    | cons next bytes =>
      have stepped : (word (b :: next :: bytes) token).step b =
          some (word (next :: bytes) token, []) := if_pos rfl
      rw [List.cons_append, run_of_silent stepped, ih (List.cons_ne_nil _ _)]

/-- A token is found before anything that does not belong to it. -/
theorem run_token (legal : token.Legal) (ends : token.IsNumeral → EndsNumeral rest) :
    run between (token.bytes ++ rest) = (run between rest).map (token :: ·) := by
  have mark {b : UInt8} {token : Token} (found : between.step b = some (between, [token])) :
      run between (b :: rest) = (run between rest).map (token :: ·) := run_of_step found
  cases token with
  | openArray | closeArray | openObject | closeObject | comma | colon => exact mark rfl
  | number numeral => exact run_numeral legal (ends trivial)
  | text literal =>
    have opens : between.step 0x22 = some (text [], []) := rfl
    rw [Token.bytes, List.cons_append, run_of_silent opens, List.append_assoc,
      List.singleton_append, run_text legal]
    rfl
  | null =>
    have begins : between.step 0x6E = some (word [0x75, 0x6C, 0x6C] .null, []) := rfl
    exact (run_of_silent begins).trans (run_word (List.cons_ne_nil _ _))
  | bool value =>
    cases value with
    | true =>
      have begins : between.step 0x74 = some (word [0x72, 0x75, 0x65] (.bool true), []) := rfl
      exact (run_of_silent begins).trans (run_word (List.cons_ne_nil _ _))
    | false =>
      have begins : between.step 0x66 = some (word [0x61, 0x6C, 0x73, 0x65] (.bool false), []) :=
        rfl
      exact (run_of_silent begins).trans (run_word (List.cons_ne_nil _ _))

end Scan

/-! ### Tokens that stand apart -/

/-- Whether every numeral has a mark behind it, if it has anything behind it. -/
def Apart (tokens : List Token) : Prop :=
  tokens.IsChain fun token next => token.IsNumeral → next.IsMark

/-- Whether a mark comes next, if anything does. -/
def Marked (tokens : List Token) : Prop := ∀ token ∈ tokens.head?, token.IsMark

theorem apart_cons {tokens : List Token} : Apart (token :: tokens) ↔
    (token.IsNumeral → Marked tokens) ∧ Apart tokens := by
  rw [Apart, List.isChain_cons]
  constructor
  · rintro ⟨follows, rest⟩
    exact ⟨fun numeral next head => follows next head numeral, rest⟩
  · rintro ⟨follows, rest⟩
    exact ⟨fun next head numeral => follows numeral next head, rest⟩

theorem next?_of_blank (space : b = 0x20 ∨ b = 0x09 ∨ b = 0x0A ∨ b = 0x0D) (stage : NumeralStage) :
    stage.next? b = none := by
  rcases space with rfl | rfl | rfl | rfl <;> cases stage <;> rfl

theorem endsNumeral_of_spells {tokens : List Token} (spelled : Spells tokens bytes)
    (marked : Marked tokens) : EndsNumeral bytes := by
  intro b head stage
  cases spelled with
  | done blank => exact next?_of_blank (blank b (List.mem_of_mem_head? head)) stage
  | @token space _ token _ blank =>
    cases space with
    | cons first space =>
      cases head
      exact next?_of_blank (blank _ List.mem_cons_self) stage
    | nil =>
      have mark := marked token rfl
      cases token with
      | openArray | closeArray | openObject | closeObject | comma | colon =>
        cases head
        cases stage <;> rfl
      | null | bool | number | text => exact mark.elim

/-- Whether some tokens stand apart with whatever mark comes next. -/
def Joins (part : List Token) : Prop :=
  ∀ rest, Marked rest → Apart rest → Apart (part ++ rest)

theorem apart_mark {tokens : List Token} (mark : token.IsMark) (apart : Apart tokens) :
    Apart (token :: tokens) := by
  refine apart_cons.mpr ⟨fun numeral => ?_, apart⟩
  cases token with
  | number => exact mark.elim
  | _ => exact numeral.elim

theorem apart_flatMap {parts : List (List Token)} {rest : List Token}
    (joins : ∀ part ∈ parts, Joins part) (marked : Marked rest) (apart : Apart rest) :
    Marked (parts.flatMap (.comma :: ·) ++ rest) ∧ Apart (parts.flatMap (.comma :: ·) ++ rest) := by
  induction parts with
  | nil => exact ⟨marked, apart⟩
  | cons part parts ih =>
    obtain ⟨first, others⟩ := List.forall_mem_cons.mp joins
    obtain ⟨marked, apart⟩ := ih others
    rw [List.flatMap_cons, List.append_assoc, List.cons_append]
    refine ⟨?_, apart_mark trivial (first _ marked apart)⟩
    rintro token ⟨⟩
    trivial

theorem joins_enclose {parts : List (List Token)} (joins : ∀ part ∈ parts, Joins part)
    (opens : first.IsMark) (closes : last.IsMark) : Joins (Token.enclose first last parts) := by
  intro rest _ apart
  have closed : Marked (last :: rest) := by
    rintro token ⟨⟩
    exact closes
  have apart : Apart (last :: rest) := apart_mark closes apart
  cases parts with
  | nil => exact apart_mark opens apart
  | cons part parts =>
    obtain ⟨first, others⟩ := List.forall_mem_cons.mp joins
    obtain ⟨marked, apart⟩ := apart_flatMap others closed apart
    rw [Token.enclose, List.cons_append, List.append_assoc, List.append_assoc]
    exact apart_mark opens (first _ marked apart)

theorem joins_tokens (value : Value) : Joins value.tokens := by
  induction value using Value.induct with
  | null | bool | text => exact fun rest _ apart => apart_cons.mpr ⟨False.elim, apart⟩
  | number => exact fun rest marked apart => apart_cons.mpr ⟨fun _ => marked, apart⟩
  | array items ih =>
    rw [Value.tokens, itemTokens_eq_map]
    have marks : Token.openArray.IsMark ∧ Token.closeArray.IsMark := ⟨trivial, trivial⟩
    refine joins_enclose ?_ marks.1 marks.2
    exact List.forall_mem_map.mpr ih
  | object members ih =>
    rw [Value.tokens, memberTokens_eq_map]
    have marks : Token.openObject.IsMark ∧ Token.closeObject.IsMark := ⟨trivial, trivial⟩
    refine joins_enclose ?_ marks.1 marks.2
    rw [List.forall_mem_map]
    intro member present rest marked apart
    exact apart_cons.mpr ⟨False.elim, apart_mark trivial (ih member present rest marked apart)⟩

/-- The scanner finds the tokens that a document spells out. -/
theorem tokens_of_spells {expected : List Token} (spelled : Spells expected document)
    (apart : Apart expected) : tokens document = some expected := by
  unfold tokens
  induction spelled with
  | @done space blank =>
    rw [← List.append_nil space, Scan.run_blank blank]
    rfl
  | token blank legal rest ih =>
    obtain ⟨follows, apart⟩ := apart_cons.mp apart
    have ends (numeral) := endsNumeral_of_spells rest (follows numeral)
    rw [Scan.run_blank blank, Scan.run_token legal ends, ih apart]
    rfl

/-! ### Values -/

namespace Reading

variable {reading later : Reading} {rest : List Token} {value : Value}

theorem foldlM_of_step (stepped : reading.step token = some later) :
    (token :: rest).foldlM step reading = rest.foldlM step later := by
  rw [List.foldlM_cons, stepped]
  rfl

/-- Whether the tokens of a value are read as that value, wherever a value is wanted. -/
def Reads (value : Value) : Prop :=
  ∀ outer, value.tokens.foldlM step (wantsValue outer) = some (complete value outer)

theorem Reads.foldlM_append (reads : Reads value) (outer : List Frame) :
    (value.tokens ++ rest).foldlM step (wantsValue outer) =
      rest.foldlM step (complete value outer) := by
  rw [List.foldlM_append, reads]
  rfl

/-- Behind the start of an array a value begins as it does behind a comma. -/
theorem foldlM_inArray (value : Value) (rest : List Token) (outer : List Frame) :
    (value.tokens ++ rest).foldlM step (inArray outer) =
      (value.tokens ++ rest).foldlM step (wantsValue (.array [] :: outer)) := by
  cases value with
  | null | bool | number | text => rfl
  | array items => cases items <;> rfl
  | object members => cases members <;> rfl

theorem foldlM_items {items : List Value} (reads : ∀ item ∈ items, Reads item) (value : Value)
    (earlier : List Value) (outer : List Frame) :
    ((items.map Value.tokens).flatMap (Token.comma :: ·) ++ [Token.closeArray]).foldlM step
        (complete value (.array earlier :: outer)) =
      some (complete (.array (earlier.reverse ++ value :: items)) outer) := by
  induction items generalizing value earlier with
  | nil =>
    rw [← List.reverse_cons]
    rfl
  | cons item items ih =>
    obtain ⟨first, others⟩ := List.forall_mem_cons.mp reads
    have next : step (complete value (.array earlier :: outer)) .comma =
        some (wantsValue (.array (value :: earlier) :: outer)) := rfl
    rw [List.map_cons, List.flatMap_cons, List.append_assoc, List.cons_append, foldlM_of_step next,
      first.foldlM_append, ih others, List.reverse_cons, List.append_assoc]
    rfl

theorem foldlM_members {members : List (Literal × Value)}
    (reads : ∀ member ∈ members, Reads member.2) (name : Literal) (value : Value)
    (earlier : List (Literal × Value)) (outer : List Frame) :
    ((members.map fun member => Token.text member.1 :: .colon :: member.2.tokens).flatMap
        (Token.comma :: ·) ++ [Token.closeObject]).foldlM step
        (complete value (.object earlier name :: outer)) =
      some (complete (.object (earlier.reverse ++ (name, value) :: members)) outer) := by
  induction members generalizing name value earlier with
  | nil =>
    rw [← List.reverse_cons]
    rfl
  | cons member members ih =>
    obtain ⟨first, others⟩ := List.forall_mem_cons.mp reads
    have next : step (complete value (.object earlier name :: outer)) .comma =
        some (wantsName ((name, value) :: earlier) outer) := rfl
    have named : step (wantsName ((name, value) :: earlier) outer) (.text member.1) =
        some (wantsColon ((name, value) :: earlier) member.1 outer) := rfl
    have marked : step (wantsColon ((name, value) :: earlier) member.1 outer) .colon =
        some (wantsValue (.object ((name, value) :: earlier) member.1 :: outer)) := rfl
    rw [List.map_cons, List.flatMap_cons, List.append_assoc, List.cons_append, foldlM_of_step next,
      List.cons_append, foldlM_of_step named, List.cons_append, foldlM_of_step marked,
      first.foldlM_append, ih others, List.reverse_cons, List.append_assoc]
    rfl

theorem reads_value (value : Value) : Reads value := by
  induction value using Value.induct with
  | null | bool | number | text => exact fun _ => rfl
  | array items reads =>
    intro outer
    have opens : step (wantsValue outer) .openArray = some (inArray outer) := rfl
    rw [Value.tokens, itemTokens_eq_map]
    cases items with
    | nil => rfl
    | cons item items =>
      obtain ⟨first, others⟩ := List.forall_mem_cons.mp reads
      rw [List.map_cons, Token.enclose, foldlM_of_step opens, foldlM_inArray, first.foldlM_append,
        foldlM_items others]
      rfl
  | object members reads =>
    intro outer
    have opens : step (wantsValue outer) .openObject = some (inObject outer) := rfl
    rw [Value.tokens, memberTokens_eq_map]
    cases members with
    | nil => rfl
    | cons member members =>
      obtain ⟨first, others⟩ := List.forall_mem_cons.mp reads
      have named : step (inObject outer) (.text member.1) =
          some (wantsColon [] member.1 outer) := rfl
      have marked : step (wantsColon [] member.1 outer) .colon =
          some (wantsValue (.object [] member.1 :: outer)) := rfl
      rw [List.map_cons, Token.enclose, foldlM_of_step opens, List.cons_append,
        foldlM_of_step named, List.cons_append, foldlM_of_step marked, first.foldlM_append,
        foldlM_members others]
      rfl

end Reading

/-- Every document of a value is read as that value. -/
theorem read?_of_written {value : Value} (written : value.Written document) :
    read? document = some value := by
  have apart : Apart value.tokens := by
    have joined := joins_tokens value [] (fun _ => nofun) .nil
    rwa [List.append_nil] at joined
  rw [read?, tokens_of_spells written apart, Option.bind_eq_bind, Option.bind_some,
    Reading.reads_value]
  rfl

end CoupledFs.Json
