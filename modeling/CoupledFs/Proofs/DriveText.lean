import CoupledFs.Proofs.Construction
import Mathlib

/-! What the text of a windows path denotes. A name may look like a drive where a path has no root, and
then the text is read as beginning with that drive; all other texts denote the path that they were
printed from. -/

namespace CoupledFs

namespace Root

theorem drive_toUpper (letter : Char) : drive letter.toUpper = drive letter := by
  unfold drive
  rw [Char.toUpper_toUpper_eq_toUpper]

end Root

namespace Path

variable {roots : List Root} {path other : Path} {text : String}

/-- Whether a path has no root and a first name that looks like a drive. -/
def beginsLikeDrive (path : Path) : Bool :=
  path.root?.isNone &&
    path.segments.head?.any fun name => (PathStyle.splitDrive? name.toList).isSome

theorem root?_of_beginsLikeDrive (seeming : path.beginsLikeDrive = true) : path.root? = none := by
  rw [beginsLikeDrive, Bool.and_eq_true] at seeming
  exact Option.isNone_iff_eq_none.mp seeming.1

theorem root?_of_ofText_windows (read : ofText .windows roots text = .ok path) :
    path.root? = none ∨
      ∃ letter, letter.isAlpha = true ∧ path.root? = some (driveAmong roots letter) := by
  obtain ⟨anchor, body, names, headed, -, made⟩ := ofText_eq_ok_iff.mp read
  rw [root?_of_ofParts made]
  rcases heading_windows_eq_ok_iff.mp headed with ⟨letter, rest, drive, -, rfl, -⟩ | ⟨-, -, rfl, -⟩
  · obtain ⟨-, alpha⟩ := PathStyle.splitDrive?_eq_some_iff.mp drive
    exact .inr ⟨letter, alpha, rfl⟩
  · exact .inl rfl

theorem heading_display_drive (drives : ∀ root ∈ roots, PathStyle.windows.HasRoot root)
    {letter : Char} (alpha : letter.isAlpha = true) (more : String) :
    heading .windows roots ((Root.drive letter).display ++ more) =
      .ok (some (.drive letter), "" ++ String.singleton PathStyle.windows.separator ++ more) := by
  have begin : ((Root.drive letter).display ++ more).toList =
      letter.toUpper :: ':' :: '\\' :: more.toList := by
    rw [String.toList_append, Root.toList_display_drive]
    rfl
  apply heading_windows_eq_ok_iff.mpr
  left
  refine ⟨letter.toUpper, '\\' :: more.toList, ?_, .inr rfl, ?_, ?_⟩
  · rw [PathStyle.splitDrive?_eq_some_iff, Char.isAlpha_toUpper_eq_isAlpha]
    exact ⟨begin, alpha⟩
  · rw [driveAmong_eq drives, Root.drive_toUpper]
  · rw [← String.toList_inj]
    simp [PathStyle.separator]

theorem splitDrive?_intercalate {first : String} {rest : List String} (nonempty : first ≠ "") :
    (PathStyle.splitDrive? (String.intercalate (String.singleton '\\') (first :: rest)).toList).isSome =
      (PathStyle.splitDrive? first.toList).isSome := by
  have some_char : first.toList ≠ [] := mt String.toList_eq_nil_iff.mp nonempty
  rcases toList_intercalate_cons '\\' first rest with alone | ⟨more, joined⟩
  · rw [alone]
  · rw [joined]
    cases drive : PathStyle.splitDrive? first.toList with
    | none => rw [PathStyle.splitDrive?_append some_char drive (by decide) more]
    | some found =>
      obtain ⟨same, alpha⟩ := PathStyle.splitDrive?_eq_some_iff.mp drive
      have longer : PathStyle.splitDrive? (first.toList ++ '\\' :: more) =
          some (found.1, found.2 ++ '\\' :: more) :=
        PathStyle.splitDrive?_eq_some_iff.mpr ⟨by rw [same]; rfl, alpha⟩
      rw [longer]
      rfl

/-- Without a root, a path begins like a drive just if its text does. -/
theorem splitDrive?_display (read : ofText .windows roots text = .ok path)
    (rootless : path.root? = none) :
    (PathStyle.splitDrive? path.display.toList).isSome = path.beginsLikeDrive := by
  have admitted := admits_of_ofText read
  obtain ⟨anchor, body, names, -, -, made⟩ := ofText_eq_ok_iff.mp read
  have named := segments_of_ofParts made
  obtain rfl : anchor = none := (root?_of_ofParts made).symm.trans rootless
  obtain ⟨first, rest, rfl⟩ : ∃ first rest, names = first :: rest := by
    apply List.exists_cons_of_ne_nil
    rintro rfl
    cases made
  have name := (admitted first (named ▸ List.mem_cons_self)).isName
  have shown := (display_of_ofParts made).trans String.empty_append
  rw [shown, PathStyle.separator, splitDrive?_intercalate name.nonempty, beginsLikeDrive, rootless,
    named]
  rfl

/-- The text of a path denotes the path, unless a drive seems to stand in it that does not. -/
theorem parse_display_windows (drives : ∀ root ∈ roots, PathStyle.windows.HasRoot root)
    (read : ofText .windows roots text = .ok path) (clear : path.beginsLikeDrive = false) :
    parse .windows roots path.display [] = .ok path := by
  have admitted := admits_of_ofText read
  have anchors := root?_of_ofText_windows read
  have looks := splitDrive?_display read
  obtain ⟨anchor, body, names, -, -, made⟩ := ofText_eq_ok_iff.mp read
  rw [segments_of_ofParts made] at admitted
  rw [root?_of_ofParts made] at anchors looks
  rcases anchors with rfl | ⟨letter, alpha, rfl⟩
  · have shown := (display_of_ofParts made).trans String.empty_append
    have named := reduceDots_fields_intercalate admitted
    have driveless : PathStyle.splitDrive? path.display.toList = none := by
      apply Option.not_isSome_iff_eq_none.mp
      rw [looks rfl, clear]
      exact Bool.false_ne_true
    rw [parse, Text.joinParts_singleton]
    apply ofText_eq_ok_iff.mpr
    refine ⟨none, path.display, names, ?_, shown ▸ named, made⟩
    apply heading_windows_eq_ok_iff.mpr
    right
    exact ⟨driveless, shown ▸ separated_intercalate admitted, rfl, rfl⟩
  · rw [driveAmong_eq drives] at made
    exact parse_display_of_heading admitted made (heading_display_drive drives alpha)

theorem isAbsolute_of_beginsLikeDrive (read : ofText .windows roots text = .ok path)
    (seeming : path.beginsLikeDrive = true)
    (read' : parse .windows roots path.display [] = .ok other) : other.isAbsolute = true := by
  have looks := (splitDrive?_display read (root?_of_beginsLikeDrive seeming)).trans seeming
  rw [parse, Text.joinParts_singleton] at read'
  obtain ⟨anchor, body, names, headed, -, made⟩ := ofText_eq_ok_iff.mp read'
  rcases heading_windows_eq_ok_iff.mp headed with ⟨letter, _, -, -, rfl, -⟩ | ⟨driveless, -⟩
  · rw [isAbsolute, root?_of_ofParts made]
    rfl
  · rw [driveless] at looks
    cases looks

section Built

variable {key : String} {config : Config} {registered : Bool} {before graph : Graph}
  {fs : FileSystem} {first : String} {more : List String}

/-- The text of a path on drives denotes the path, and further parts lead from there to where they
lead from the parts that the path was read from, just if the path does not begin like a drive. If it
does, its text is refused or denotes a path that has a root. -/
theorem drive_text_denotes_iff
    (built : (FileSystem.build key config registered before).outcome = (.ok fs, graph))
    (drives : config.pathStyle = .windows)
    (read : parse .windows fs.roots.roots first more = .ok path) :
    (parse .windows fs.roots.roots path.display [] = .ok path ↔ path.beginsLikeDrive = false) ∧
      ((∀ rest, (parse .windows fs.roots.roots first (more ++ rest)).mapError FsError.kind =
          (parse .windows fs.roots.roots path.display rest).mapError FsError.kind) ↔
        path.beginsLikeDrive = false) ∧
      (path.beginsLikeDrive = true → ∀ other,
        parse .windows fs.roots.roots path.display [] = .ok other → other.isAbsolute = true) := by
  have owned := FileSystem.hasRoot_of_build built
  rw [drives] at owned
  have denotes := parse_display_windows owned read
  have misleads (seeming : path.beginsLikeDrive = true) (other : Path)
      (read' : parse .windows fs.roots.roots path.display [] = .ok other) : other.isAbsolute = true :=
    isAbsolute_of_beginsLikeDrive read seeming read'
  have honest (again : parse .windows fs.roots.roots path.display [] = .ok path) :
      path.beginsLikeDrive = false := by
    apply Bool.eq_false_iff.mpr
    intro seeming
    have absolute := misleads seeming path again
    rw [isAbsolute, root?_of_beginsLikeDrive seeming] at absolute
    cases absolute
  refine ⟨⟨honest, denotes⟩, ⟨?_, ?_⟩, misleads⟩
  · intro onward
    have here := onward []
    rw [List.append_nil, read] at here
    apply honest
    cases again : parse .windows fs.roots.roots path.display [] with
    | error error =>
      rw [again] at here
      cases here
    | ok other =>
      rw [again] at here
      cases here
      rfl
  · intro clear rest
    exact kind_parse_of_denotes read (denotes clear) rest

/-- Behind a dot, a name may look like a drive. In the text of the path it is one. -/
theorem drive_text_denotes_iff_behind_dot :
    let path : Path := .element ⟨none, ["C:", "x"], '\\', by simp⟩
    let other : Path := .element ⟨some (.drive 'C'), ["x"], '\\', by simp⟩
    ∃ fs graph, (FileSystem.build "k" .windows false {}).outcome = (.ok fs, graph) ∧
      parse .windows fs.roots.roots "." ["C:", "x"] = .ok path ∧ path.beginsLikeDrive = true ∧
      parse .windows fs.roots.roots path.display [] ≠ .ok path ∧
      parse .windows fs.roots.roots path.display [] = .ok other ∧ other.isAbsolute = true := by
  intro path other
  have seeming : path.beginsLikeDrive = true := rfl
  have built : ∃ fs graph, (FileSystem.build "k" .windows false {}).outcome = (.ok fs, graph) ∧
      fs.roots.roots = [.drive 'C'] := ⟨_, _, rfl, rfl⟩
  obtain ⟨fs, graph, built, roots⟩ := built
  have read : parse .windows fs.roots.roots "." ["C:", "x"] = .ok path := by
    rw [roots]
    rfl
  have read' : parse .windows fs.roots.roots "C:\\x" [] = .ok other := by
    rw [roots]
    rfl
  obtain ⟨denotes, -, misleads⟩ := drive_text_denotes_iff built rfl read
  refine ⟨fs, graph, built, read, seeming, ?_, read', misleads seeming other read'⟩
  intro again
  cases seeming.symm.trans (denotes.mp again)

/-- The text of a path on drives can denote another path. -/
theorem not_drive_text_denotes :
    ¬∀ (key : String) (config : Config) (registered : Bool) (before graph : Graph) (fs : FileSystem)
      (first : String) (more : List String) (path : Path),
      (FileSystem.build key config registered before).outcome = (.ok fs, graph) →
      config.pathStyle = .windows → parse .windows fs.roots.roots first more = .ok path →
      ∀ rest, (parse .windows fs.roots.roots first (more ++ rest)).mapError FsError.kind =
        (parse .windows fs.roots.roots path.display rest).mapError FsError.kind := by
  intro denotes
  have here := denotes "k" .windows false {} _ _ "." ["C:", "x"]
    (.element ⟨none, ["C:", "x"], '\\', by simp⟩) rfl rfl rfl []
  cases here

end Built

end Path

end CoupledFs
