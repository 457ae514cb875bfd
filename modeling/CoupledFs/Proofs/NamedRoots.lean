import CoupledFs.Proofs.DriveText

/-! The roots that have names. Where no roots are given, the roots that paths are read to have are just
those that a style finds under a name. -/

namespace CoupledFs

namespace Text

/-- Texts that differ in nothing but the case of ASCII letters. -/
def SameButForCase (text other : String) : Prop :=
  text.toList.map Char.toLower = other.toList.map Char.toLower

end Text

namespace PathStyle

variable {style : PathStyle} {name : String} {root : Root} {letter : Char}

/-! ### Names that are accepted -/

theorem rootNamed_name_drive (alpha : letter.isAlpha = true) :
    rootNamed .windows (Root.drive letter).name = .ok (.drive letter) := by
  apply rootNamed_windows_eq_ok_iff.mpr
  refine ⟨letter.toUpper, [], ?_, .inl rfl, (Root.drive_toUpper letter).symm⟩
  rw [splitDrive?_eq_some_iff, Char.isAlpha_toUpper_eq_isAlpha]
  exact ⟨String.toList_ofList, alpha⟩

theorem rootNamed_display_drive (alpha : letter.isAlpha = true) :
    rootNamed .windows (Root.drive letter).display = .ok (.drive letter) := by
  apply rootNamed_windows_eq_ok_iff.mpr
  refine ⟨letter.toUpper, ['\\'], ?_, .inr ⟨'\\', rfl, rfl⟩, (Root.drive_toUpper letter).symm⟩
  rw [splitDrive?_eq_some_iff, Char.isAlpha_toUpper_eq_isAlpha]
  exact ⟨Root.toList_display_drive letter, alpha⟩

theorem exists_drive_of_rootNamed (named : rootNamed .windows name = .ok root) :
    ∃ letter, letter.isAlpha = true ∧ root = .drive letter := by
  obtain ⟨letter, _, drive, -, same⟩ := rootNamed_windows_eq_ok_iff.mp named
  exact ⟨letter, (splitDrive?_eq_some_iff.mp drive).2, same⟩

/-- A root answers to its own name and to its text. -/
theorem rootNamed_own (named : style.rootNamed name = .ok root) :
    style.rootNamed root.name = .ok root ∧ style.rootNamed root.display = .ok root := by
  cases style with
  | unix =>
    obtain ⟨-, rfl⟩ := rootNamed_unix_eq_ok_iff.mp named
    exact ⟨rfl, rfl⟩
  | windows =>
    obtain ⟨letter, alpha, rfl⟩ := exists_drive_of_rootNamed named
    exact ⟨rootNamed_name_drive alpha, rootNamed_display_drive alpha⟩

/-! ### Names that are refused -/

def notRoot : PathStyle → String → ArgumentFault
  | unix => .notUnixRoot
  | windows => .notDriveRoot

theorem eq_notRoot_of_rootNamed {error : FsError} (refused : style.rootNamed name = .error error) :
    error = .invalidArgument (style.notRoot name) := by
  cases style with
  | unix =>
    simp only [rootNamed] at refused
    split at refused
    · cases refused
    · cases refused
      rfl
  | windows =>
    simp only [rootNamed] at refused
    split at refused
    · cases refused
    · split at refused
      · cases refused
      · cases refused
        rfl
    · cases refused
      rfl

/-! ### Upper and lower case -/

theorem eq_of_toLower_eq {c d : Char} (same : c.toLower = d.toLower) (plain : c.isAlpha = false) :
    c = d := by
  have plain' : d.isAlpha = false := by
    rw [← Char.isAlpha_toLower_eq_isAlpha, ← same, Char.isAlpha_toLower_eq_isAlpha, plain]
  have caseless (e : Char) (plain : e.isAlpha = false) : ¬e.isUpper = true := by
    intro capital
    rw [Char.isAlpha, capital, Bool.true_or] at plain
    cases plain
  rwa [Char.toLower_eq_of_not_isUpper (caseless c plain),
    Char.toLower_eq_of_not_isUpper (caseless d plain')] at same

/-- A name may be written in upper and in lower case. -/
theorem rootNamed_of_sameButForCase (named : style.rootNamed root.name = .ok root)
    (same : Text.SameButForCase root.name name) : style.rootNamed name = .ok root := by
  unfold Text.SameButForCase at same
  cases style with
  | unix =>
    obtain ⟨-, rfl⟩ := rootNamed_unix_eq_ok_iff.mp named
    obtain ⟨c, single, folded⟩ := List.map_eq_singleton_iff.mp same.symm
    obtain rfl : '/' = c := eq_of_toLower_eq folded.symm rfl
    have name_eq : name = "/" := String.toList_inj.mp single
    exact rootNamed_unix_eq_ok_iff.mpr ⟨name_eq, rfl⟩
  | windows =>
    obtain ⟨letter, alpha, rfl⟩ := exists_drive_of_rootNamed named
    have chars : (Root.drive letter).name.toList = [letter.toUpper, ':'] := String.toList_ofList
    rw [chars, List.map_cons, List.map_singleton] at same
    obtain ⟨c, rest, begin, first, later⟩ := List.map_eq_cons_iff.mp same.symm
    obtain ⟨d, single, second⟩ := List.map_eq_singleton_iff.mp later
    obtain rfl : ':' = d := eq_of_toLower_eq second.symm rfl
    rw [Char.toLower_toUpper_eq_toLower] at first
    have alpha' : c.isAlpha = true := by
      rw [← Char.isAlpha_toLower_eq_isAlpha, first, Char.isAlpha_toLower_eq_isAlpha, alpha]
    have drive : Root.drive c = Root.drive letter := by
      rw [← Root.drive_toUpper c, ← Root.drive_toUpper letter, ← Char.toUpper_toLower_eq_toUpper c,
        first, Char.toUpper_toLower_eq_toUpper]
    apply rootNamed_windows_eq_ok_iff.mpr
    refine ⟨c, [], ?_, .inl rfl, drive.symm⟩
    exact splitDrive?_eq_some_iff.mpr ⟨by rw [begin, single], alpha'⟩

end PathStyle

namespace Path

variable {style : PathStyle} {root : Root} {path : Path} {first : String} {more : List String}

/-- Where no roots are given, a path is read to have a root that answers to its name. -/
theorem rootNamed_of_parse (read : parse style [] first more = .ok path)
    (rooted : path.root? = some root) : style.rootNamed root.name = .ok root := by
  cases style with
  | unix =>
    obtain ⟨anchor, body, names, headed, -, made⟩ := ofText_eq_ok_iff.mp read
    simp only [heading, Except.ok.injEq, Prod.mk.injEq] at headed
    rw [← root?_of_ofParts made, rooted] at headed
    obtain ⟨slash, -⟩ := headed
    split at slash
    · cases slash
      rfl
    · cases slash
  | windows =>
    rcases root?_of_ofText_windows read with rootless | ⟨letter, alpha, drive⟩
    · cases rooted.symm.trans rootless
    · rw [rooted, driveAmong_eq (by simp)] at drive
      cases drive
      exact PathStyle.rootNamed_name_drive alpha

/-- The roots that a style finds under names are just those that paths can have, as long as no roots are
given. A name that is accepted is read as the bare root, and so is each of the texts that the root
itself goes by. A name that is refused is the name of no root that a path can have, whatever the case
of its letters. -/
theorem named_roots_are_those_read (style : PathStyle) :
    (∀ name root, style.rootNamed name = .ok root → parse style [] name [] = .ok (.root root) ∧
      style.rootNamed root.name = .ok root ∧ style.rootNamed root.display = .ok root) ∧
    (∀ name error, style.rootNamed name = .error error → error.kind = .invalidArgument ∧
      ∀ first more path root, parse style [] first more = .ok path → path.root? = some root →
        ¬Text.SameButForCase root.name name) ∧
    ∀ first more path root, parse style [] first more = .ok path → path.root? = some root →
      style.rootNamed root.name = .ok root := by
  refine ⟨?_, ?_, ?_⟩
  · intro name root named
    exact ⟨parse_of_rootNamed named (by simp), PathStyle.rootNamed_own named⟩
  · intro name error refused
    refine ⟨by rw [PathStyle.eq_notRoot_of_rootNamed refused]; rfl, ?_⟩
    intro first more path root read rooted same
    have named := PathStyle.rootNamed_of_sameButForCase (rootNamed_of_parse read rooted) same
    cases named.symm.trans refused
  · intro first more path root read rooted
    exact rootNamed_of_parse read rooted

/-- A drive in lower case with a separator behind it, and a name that goes on behind the drive. -/
theorem named_roots_are_those_read_on_drives :
    let path : Path := .element ⟨some (.drive 'C'), ["data"], '\\', by simp⟩
    PathStyle.windows.rootNamed "c:/" = .ok (.drive 'C') ∧
      parse .windows [] "c:/" [] = .ok (.root (.drive 'C')) ∧
      PathStyle.windows.rootNamed "C:" = .ok (.drive 'C') ∧
      PathStyle.windows.rootNamed "C:\\" = .ok (.drive 'C') ∧
      PathStyle.windows.rootNamed "c:\\data" = .error (.invalidArgument (.notDriveRoot "c:\\data")) ∧
      parse .windows [] "c:\\data" [] = .ok path ∧ ¬Text.SameButForCase "C:" "c:\\data" := by
  intro path
  obtain ⟨accepted, refused, carried⟩ := named_roots_are_those_read .windows
  have named : PathStyle.windows.rootNamed "c:/" = .ok (.drive 'C') := rfl
  have dangling : PathStyle.windows.rootNamed "c:\\data" =
      .error (.invalidArgument (.notDriveRoot "c:\\data")) := rfl
  have read : parse .windows [] "c:\\data" [] = .ok path := rfl
  obtain ⟨bare, -, shown⟩ := accepted _ _ named
  obtain ⟨-, unnamed⟩ := refused _ _ dangling
  exact ⟨named, bare, carried _ _ _ _ read rfl, shown, dangling, read, unnamed _ _ _ _ read rfl⟩

end Path

end CoupledFs
