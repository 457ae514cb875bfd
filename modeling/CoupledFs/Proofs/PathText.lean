import CoupledFs.Path.Parse
import CoupledFs.Proofs.Dots
import CoupledFs.Proofs.Fields

/-! What the text of a path denotes: the path that it was printed from. Further parts lead from there to
where they lead from the path. -/

namespace CoupledFs

namespace PathStyle

/-- A name as it may stand in a path that was read. -/
structure Admits (style : PathStyle) (name : String) : Prop where
  isName : Path.IsName name
  whole : ∀ c ∈ name.toList, style.divides c = false

@[simp]
theorem divides_separator (style : PathStyle) : style.divides style.separator = true := by
  cases style <;> rfl

theorem splitDrive?_eq_some_iff {text body : List Char} {letter : Char} :
    splitDrive? text = some (letter, body) ↔
      text = letter :: ':' :: body ∧ letter.isAlpha = true := by
  unfold splitDrive?
  split
  · rename_i first rest
    by_cases alpha : first.isAlpha = true
    · rw [if_pos alpha]
      constructor
      · intro found
        cases found
        exact ⟨rfl, alpha⟩
      · rintro ⟨same, -⟩
        cases same
        rfl
    · rw [if_neg alpha]
      constructor
      · intro found
        cases found
      · rintro ⟨same, letter⟩
        cases same
        exact absurd letter alpha
  · rename_i other
    constructor
    · intro found
      cases found
    · rintro ⟨same, -⟩
      exact absurd same (other letter body)

theorem splitDrive?_append {text : List Char} (nonempty : text ≠ [])
    (driveless : splitDrive? text = none) {separator : Char} (apart : separator ≠ ':') (more : List Char) :
    splitDrive? (text ++ separator :: more) = none := by
  apply Option.eq_none_iff_forall_ne_some.mpr
  rintro ⟨letter, body⟩ found
  obtain ⟨same, alpha⟩ := splitDrive?_eq_some_iff.mp found
  match text with
  | [] => exact nonempty rfl
  | [c] =>
    injection same with _ same
    injection same with colon _
    exact apart colon
  | c :: d :: rest =>
    injection same with first same
    injection same with second _
    have drive : splitDrive? (c :: d :: rest) = some (letter, rest) :=
      splitDrive?_eq_some_iff.mpr ⟨by rw [first, second], alpha⟩
    cases driveless.symm.trans drive

end PathStyle

namespace Path

variable {style : PathStyle} {roots : List Root} {anchor : Option Root} {names : List String}
  {text body : String} {path : Path}

/-! ### Root and names -/

theorem assemble_eq_ok_iff {separator : Char} :
    assemble anchor names separator text = .ok path ↔ ofParts anchor names separator = some path := by
  unfold assemble
  cases ofParts anchor names separator <;> simp

section Parts

variable {separator : Char} (made : ofParts anchor names separator = some path)

include made

theorem root?_of_ofParts : path.root? = anchor := by
  cases names with
  | nil =>
    obtain ⟨root, rfl, rfl⟩ := Option.map_eq_some_iff.mp made
    rfl
  | cons first rest =>
    cases made
    rfl

theorem segments_of_ofParts : path.segments = names := by
  cases names with
  | nil =>
    obtain ⟨root, rfl, rfl⟩ := Option.map_eq_some_iff.mp made
    rfl
  | cons first rest =>
    cases made
    rfl

theorem display_of_ofParts :
    path.display = (anchor.map Root.display).getD "" ++
      String.intercalate (String.singleton separator) names := by
  cases names with
  | nil =>
    obtain ⟨root, rfl, rfl⟩ := Option.map_eq_some_iff.mp made
    simp [display]
  | cons first rest =>
    cases made
    exact ElementPath.display_eq _

end Parts

/-! ### Reading -/

theorem namesIn_eq_ok_iff :
    namesIn style body text = .ok names ↔ reduceDots (Text.fields style.divides body) = .ok names := by
  unfold namesIn
  cases reduceDots (Text.fields style.divides body) with
  | error fault =>
    constructor
    · intro named
      cases named
    · intro reduced
      cases reduced
  | ok found =>
    constructor
    · intro named
      cases named
      rfl
    · intro reduced
      cases reduced
      rfl

theorem ofText_of_heading (headed : heading style roots text = .ok (anchor, body)) :
    ofText style roots text =
      (namesIn style body text).bind fun names => assemble anchor names style.separator text := by
  simp only [ofText, headed]
  rfl

theorem ofText_eq_ok_iff : ofText style roots text = .ok path ↔
    ∃ anchor body names, heading style roots text = .ok (anchor, body) ∧
      reduceDots (Text.fields style.divides body) = .ok names ∧
      ofParts anchor names style.separator = some path := by
  constructor
  · intro read
    cases headed : heading style roots text with
    | error error =>
      rw [ofText, headed] at read
      cases read
    | ok found =>
      obtain ⟨anchor, body⟩ := found
      rw [ofText_of_heading headed] at read
      cases named : namesIn style body text with
      | error error =>
        rw [named] at read
        cases read
      | ok names =>
        rw [named] at read
        exact ⟨anchor, body, names, rfl, namesIn_eq_ok_iff.mp named, assemble_eq_ok_iff.mp read⟩
  · rintro ⟨anchor, body, names, headed, reduced, made⟩
    rw [ofText_of_heading headed, namesIn_eq_ok_iff.mpr reduced]
    exact assemble_eq_ok_iff.mpr made

theorem admits_of_ofText (read : ofText style roots text = .ok path) :
    ∀ name ∈ path.segments, style.Admits name := by
  obtain ⟨anchor, body, names, -, reduced, made⟩ := ofText_eq_ok_iff.mp read
  rw [segments_of_ofParts made]
  intro name member
  have field := mem_of_reduceDots reduced name member
  exact ⟨isName_of_reduceDots reduced name member, Text.whole_of_mem_fields field⟩

/-- A windows path begins with a drive that is closed by a separator, or with neither. -/
theorem heading_windows_eq_ok_iff : heading .windows roots text = .ok (anchor, body) ↔
    (∃ letter rest, PathStyle.splitDrive? text.toList = some (letter, rest) ∧
        (rest = [] ∨ rest.head?.any PathStyle.windows.divides = true) ∧
        anchor = some (driveAmong roots letter) ∧ body = String.ofList rest) ∨
      PathStyle.splitDrive? text.toList = none ∧
        text.toList.head?.any PathStyle.windows.divides = false ∧ anchor = none ∧ body = text := by
  unfold heading
  cases drive : PathStyle.splitDrive? text.toList with
  | some found =>
    obtain ⟨letter, rest⟩ := found
    by_cases dangling : rest ≠ [] ∧ !rest.head?.any PathStyle.windows.divides
    · simp only [if_pos dangling]
      constructor
      · intro headed
        cases headed
      · rintro (⟨_, _, same, closed, -⟩ | ⟨driveless, -⟩)
        · cases same
          simp_all
        · cases driveless
    · have closed : rest = [] ∨ rest.head?.any PathStyle.windows.divides = true := by
        by_cases bare : rest = []
        · exact .inl bare
        · exact .inr (by simpa [bare] using dangling)
      simp only [if_neg dangling]
      constructor
      · intro headed
        cases headed
        exact .inl ⟨letter, rest, rfl, closed, rfl, rfl⟩
      · rintro (⟨_, _, same, -, rfl, rfl⟩ | ⟨driveless, -⟩)
        · cases same
          rfl
        · cases driveless
  | none =>
    by_cases separated : text.toList.head?.any PathStyle.windows.divides = true
    · simp only [if_pos separated]
      constructor
      · intro headed
        cases headed
      · rintro (⟨_, _, drive, -⟩ | ⟨-, unseparated, -⟩)
        · cases drive
        · cases separated.symm.trans unseparated
    · simp only [if_neg separated]
      constructor
      · intro headed
        cases headed
        exact .inr ⟨trivial, Bool.eq_false_iff.mpr separated, rfl, rfl⟩
      · rintro (⟨_, _, drive, -⟩ | ⟨-, -, rfl, rfl⟩)
        · cases drive
        · rfl

theorem ne_empty_of_ofText (read : ofText style roots text = .ok path) : text ≠ "" := by
  rintro rfl
  cases style <;> cases read

/-! ### Reading on -/

/-- The path to which components lead from another one, as a part of the whole text `text`. -/
def follow (style : PathStyle) (path : Path) (components : List String) (text : String) :
    Except FsError Path := do
  let names ← (reduceAfter path.segments.reverse components).mapError (DotFault.toError text)
  assemble path.root? names style.separator text

/-- What a text begins with does not change when more is written behind a separator. -/
theorem heading_append (headed : heading style roots text = .ok (anchor, body))
    (nonempty : text ≠ "") (more : String) :
    heading style roots (text ++ String.singleton style.separator ++ more) =
      .ok (anchor, body ++ String.singleton style.separator ++ more) := by
  obtain ⟨c, rest, same⟩ : ∃ c rest, text.toList = c :: rest :=
    List.exists_cons_of_ne_nil (mt String.toList_eq_nil_iff.mp nonempty)
  cases style with
  | unix =>
    simp only [heading, Except.ok.injEq, Prod.mk.injEq] at headed ⊢
    obtain ⟨rfl, rfl⟩ := headed
    simp [same]
  | windows =>
    have chars : (text ++ String.singleton '\\' ++ more).toList =
        text.toList ++ '\\' :: more.toList := by simp
    apply heading_windows_eq_ok_iff.mpr
    rcases heading_windows_eq_ok_iff.mp headed with
      ⟨letter, front, drive, closed, rfl, rfl⟩ | ⟨driveless, unseparated, rfl, rfl⟩
    · left
      obtain ⟨begin, alpha⟩ := PathStyle.splitDrive?_eq_some_iff.mp drive
      refine ⟨letter, front ++ '\\' :: more.toList, ?_, ?_, rfl, ?_⟩
      · rw [PathStyle.splitDrive?_eq_some_iff, PathStyle.separator, chars, begin]
        exact ⟨rfl, alpha⟩
      · right
        cases front with
        | nil => rfl
        | cons d front => simpa using closed
      · rw [← String.toList_inj]
        simp [PathStyle.separator]
    · right
      have beyond : PathStyle.splitDrive? (body.toList ++ '\\' :: more.toList) = none :=
        PathStyle.splitDrive?_append (by simp [same]) driveless (by decide) more.toList
      refine ⟨?_, ?_, rfl, rfl⟩
      · rw [PathStyle.separator, chars, beyond]
      · rw [PathStyle.separator, chars, same]
        rwa [same] at unseparated

/-- Reading a text that goes on behind a path is following the path. -/
theorem ofText_joinParts (read : ofText style roots text = .ok path) (more : String) :
    ofText style roots (Text.joinParts style.separator [text, more]) =
      path.follow style (Text.fields style.divides more)
        (Text.joinParts style.separator [text, more]) := by
  obtain ⟨anchor, body, names, headed, reduced, made⟩ := ofText_eq_ok_iff.mp read
  have nonempty := ne_empty_of_ofText read
  have onward : ∃ body', heading style roots (Text.joinParts style.separator [text, more]) =
        .ok (anchor, body') ∧
      reduceDots (Text.fields style.divides body') =
        reduceAfter names.reverse (Text.fields style.divides more) := by
    rw [Text.joinParts_pair, if_neg nonempty]
    by_cases silent : more = ""
    · refine ⟨body, by rwa [if_pos silent], ?_⟩
      rw [reduced, silent, Text.fields_empty, reduceAfter_of_blank (.inl rfl), reduceAfter.eq_1,
        List.reverse_reverse]
    · rw [if_neg silent]
      refine ⟨_, heading_append headed nonempty more, ?_⟩
      rw [Text.fields_append style.divides_separator, reduceDots, reduceAfter_append,
        ← reduceDots, reduced]
      rfl
  obtain ⟨body', headed', reduced'⟩ := onward
  rw [ofText_of_heading headed', namesIn, reduced', follow, segments_of_ofParts made,
    root?_of_ofParts made]
  rfl

/-- The path that components make does not depend on the text that an error is to name, but for the
error's particulars. -/
theorem kind_bind_assemble (reduced : Except DotFault (List String)) (anchor : Option Root)
    (separator : Char) (text other : String) :
    ((reduced.mapError (DotFault.toError text)).bind fun names =>
        assemble anchor names separator text).mapError FsError.kind =
      ((reduced.mapError (DotFault.toError other)).bind fun names =>
        assemble anchor names separator other).mapError FsError.kind := by
  cases reduced with
  | error fault => cases fault <;> rfl
  | ok names =>
    change (assemble anchor names separator text).mapError _ =
      (assemble anchor names separator other).mapError _
    unfold assemble
    cases ofParts anchor names separator <;> rfl

theorem kind_follow (style : PathStyle) (path : Path) (components : List String)
    (text other : String) :
    (path.follow style components text).mapError FsError.kind =
      (path.follow style components other).mapError FsError.kind :=
  kind_bind_assemble _ path.root? style.separator text other

/-- If the text of a path denotes the path, then further parts lead from there to where they lead from
the parts that the path was read from. -/
theorem kind_parse_of_denotes {first : String} {more : List String}
    (read : parse style roots first more = .ok path)
    (denotes : parse style roots path.display [] = .ok path) (rest : List String) :
    (parse style roots first (more ++ rest)).mapError FsError.kind =
      (parse style roots path.display rest).mapError FsError.kind := by
  rw [parse, Text.joinParts_singleton] at denotes
  have left := ofText_joinParts read (Text.joinParts style.separator rest)
  have right := ofText_joinParts denotes (Text.joinParts style.separator rest)
  have onward : path.display :: rest = [path.display] ++ rest := rfl
  rw [parse, parse, ← List.cons_append, Text.joinParts_append, left, onward, Text.joinParts_append,
    Text.joinParts_singleton, right]
  exact kind_follow style path _ _ _

/-! ### Reading what was printed -/

theorem reduceDots_fields_intercalate (admitted : ∀ name ∈ names, style.Admits name) :
    reduceDots (Text.fields style.divides
      (String.intercalate (String.singleton style.separator) names)) = .ok names := by
  have proper : ∀ name ∈ names, IsName name := fun name member => (admitted name member).isName
  by_cases empty : names = []
  · rw [empty, String.intercalate_nil, Text.fields_empty, reduceDots, reduceAfter_of_blank (.inl rfl)]
    rfl
  · rw [Text.fields_intercalate style.divides_separator empty fun name member =>
      (admitted name member).whole]
    exact reduceDots_of_names proper

theorem reduceDots_fields_of_blank {front : String} (blank : Text.fields style.divides front = [""])
    (back : String) :
    reduceDots (Text.fields style.divides (front ++ String.singleton style.separator ++ back)) =
      reduceDots (Text.fields style.divides back) := by
  rw [Text.fields_append style.divides_separator, blank, List.singleton_append, reduceDots,
    reduceAfter_of_blank (.inl rfl), reduceDots]

theorem toList_intercalate_cons (separator : Char) (first : String) (rest : List String) :
    (String.intercalate (String.singleton separator) (first :: rest)).toList = first.toList ∨
      ∃ more, (String.intercalate (String.singleton separator) (first :: rest)).toList =
        first.toList ++ separator :: more := by
  cases rest with
  | nil =>
    left
    rw [String.intercalate_singleton]
  | cons next rest =>
    right
    refine ⟨(String.intercalate (String.singleton separator) (next :: rest)).toList, ?_⟩
    rw [String.intercalate_cons_cons]
    simp

theorem separated_intercalate (admitted : ∀ name ∈ names, style.Admits name) :
    (String.intercalate (String.singleton style.separator) names).toList.head?.any
      style.divides = false := by
  cases names with
  | nil => simp
  | cons first rest =>
    have name := admitted first List.mem_cons_self
    obtain ⟨c, others, begin⟩ : ∃ c others, first.toList = c :: others :=
      List.exists_cons_of_ne_nil (mt String.toList_eq_nil_iff.mp name.isName.nonempty)
    have undivided : style.divides c = false := name.whole c (by simp [begin])
    rcases toList_intercalate_cons style.separator first rest with alone | ⟨more, joined⟩
    · rw [alone, begin]
      simpa using undivided
    · rw [joined, begin]
      simpa using undivided

/-- Where the text of a root leads to that root and to a separator behind it, the text of a path under
the root denotes the path. -/
theorem parse_display_of_heading {root : Root} (admitted : ∀ name ∈ names, style.Admits name)
    (made : ofParts (some root) names style.separator = some path)
    (headed : ∀ more, heading style roots (root.display ++ more) =
      .ok (some root, "" ++ String.singleton style.separator ++ more)) :
    parse style roots path.display [] = .ok path := by
  have shown : path.display =
      root.display ++ String.intercalate (String.singleton style.separator) names :=
    display_of_ofParts made
  have named := (reduceDots_fields_of_blank (Text.fields_empty style.divides) _).trans
    (reduceDots_fields_intercalate admitted)
  rw [parse, Text.joinParts_singleton, shown]
  exact ofText_eq_ok_iff.mpr ⟨some root, _, names, headed _, named, made⟩

theorem heading_display_slash (roots : List Root) (more : String) :
    heading .unix roots (Root.slash.display ++ more) =
      .ok (some .slash, "" ++ String.singleton PathStyle.unix.separator ++ more) := by
  have shown : Root.slash.display = "" ++ String.singleton PathStyle.unix.separator := rfl
  simp [heading, shown]

theorem parse_display_unix {first : String} {more : List String}
    (read : parse .unix roots first more = .ok path) (others : List Root) :
    parse .unix others path.display [] = .ok path := by
  have admitted := admits_of_ofText read
  obtain ⟨anchor, body, names, headed, reduced, made⟩ := ofText_eq_ok_iff.mp read
  rw [segments_of_ofParts made] at admitted
  have anchors : anchor = none ∨ anchor = some .slash := by
    simp only [heading, Except.ok.injEq, Prod.mk.injEq] at headed
    rw [← headed.1]
    split
    · exact .inr rfl
    · exact .inl rfl
  rcases anchors with rfl | rfl
  · have shown := (display_of_ofParts made).trans String.empty_append
    have relative := separated_intercalate admitted
    have headed' : heading .unix others path.display = .ok (none, path.display) := by
      simp only [heading, shown, relative]
      rfl
    have named := reduceDots_fields_intercalate admitted
    rw [parse, Text.joinParts_singleton]
    exact ofText_eq_ok_iff.mpr ⟨none, _, names, headed', shown ▸ named, made⟩
  · exact parse_display_of_heading admitted made (heading_display_slash others)

/-- The text of a unix path denotes the path, and further parts lead from there to where they lead from
the parts that the path was read from. No other path has that text. -/
theorem unix_text_denotes {first : String} {more : List String}
    (read : parse .unix roots first more = .ok path) :
    (∀ rest, (parse .unix roots first (more ++ rest)).mapError FsError.kind =
        (parse .unix roots path.display rest).mapError FsError.kind) ∧
      parse .unix roots path.display [] = .ok path ∧
      ∀ roots' first' more' other, parse .unix roots' first' more' = .ok other →
        other.display = path.display → other = path := by
  have denotes := parse_display_unix read roots
  refine ⟨kind_parse_of_denotes read denotes, denotes, ?_⟩
  intro roots' first' more' other read' same
  have denotes' := parse_display_unix read' roots
  rw [same, denotes] at denotes'
  exact (Except.ok.inj denotes').symm

/-- Dots and empty parts are gone from the text, which leads on as the parts do, also where it leads out
of the root. -/
theorem unix_text_denotes_behind_dots :
    let path : Path := .element ⟨none, ["a", "c"], '/', by simp⟩
    let other : Path := .element ⟨none, ["d"], '/', by simp⟩
    parse .unix [] "a/./b" ["..", "", "c//"] = .ok path ∧ path.display = "a/c" ∧
      parse .unix [] "a/c" [] = .ok path ∧
      (parse .unix [] "a/./b" ["..", "", "c//", "/../..", "d"]).mapError FsError.kind = .ok other ∧
      (parse .unix [] "a/c" ["/../..", "d"]).mapError FsError.kind = .ok other ∧
      (parse .unix [] "a/c" ["..", "", "../../x"]).mapError FsError.kind = .error .invalidArgument := by
  intro path other
  have read : parse .unix [] "a/./b" ["..", "", "c//"] = .ok path := rfl
  obtain ⟨onward, denotes, -⟩ := unix_text_denotes read
  have apart : (parse .unix [] "a/./b" ["..", "", "c//", "/../..", "d"]).mapError FsError.kind =
      .ok other := rfl
  have outward : (parse .unix [] "a/./b" ["..", "", "c//", "..", "", "../../x"]).mapError
      FsError.kind = .error .invalidArgument := rfl
  exact ⟨read, rfl, denotes, apart, (onward ["/../..", "d"]).symm.trans apart,
    (onward ["..", "", "../../x"]).symm.trans outward⟩

end Path

end CoupledFs
