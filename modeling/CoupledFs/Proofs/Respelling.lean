import CoupledFs.Proofs.PathText
import Mathlib

/-! Spellings of a windows path that come to the same. It makes no difference which separators stand in
its text, and whether the letter of its drive is in upper or lower case. -/

namespace CoupledFs

namespace PathStyle

/-- Characters that mean the same in the text of a windows path: the same one, or two that divide the
text. -/
def Interchangeable (c d : Char) : Prop :=
  c = d ∨ windows.divides c = true ∧ windows.divides d = true

/-- Texts that differ in nothing but their separators. -/
def SeparatedAlike (text text' : List Char) : Prop :=
  List.Forall₂ Interchangeable text text'

/-- Texts that differ in nothing but their separators, and if they begin with a drive, then also in the
case of its letter. -/
inductive Respelled : List Char → List Char → Prop where
  | separators {text text' : List Char} (alike : SeparatedAlike text text') : Respelled text text'
  | drive {letter letter' : Char} {body body' : List Char} (alpha : letter.isAlpha = true)
      (same : letter'.toUpper = letter.toUpper) (alike : SeparatedAlike body body') :
      Respelled (letter :: ':' :: body) (letter' :: ':' :: body')

/-- Parts of a text that differ in nothing but their separators. A drive can stand in the first of them
that is not empty, for the joined text begins there; then they may also differ in the case of its
letter. -/
inductive PartsRespelled : List String → List String → Prop where
  | begin {first first' : String} {more more' : List String}
      (spelled : Respelled first.toList first'.toList)
      (alike : List.Forall₂ (fun part part' => SeparatedAlike part.toList part'.toList) more more') :
      PartsRespelled (first :: more) (first' :: more')
  | blank {parts parts' : List String} (later : PartsRespelled parts parts') :
      PartsRespelled ("" :: parts) ("" :: parts')

variable {text text' body body' : List Char} {letter letter' c d : Char}

/-! ### Characters -/

theorem Interchangeable.divides_eq (same : Interchangeable c d) :
    windows.divides c = windows.divides d := by
  rcases same with rfl | ⟨first, second⟩
  · rfl
  · rw [first, second]

theorem Interchangeable.eq_of_whole (same : Interchangeable c d)
    (whole : windows.divides c = false) : c = d := by
  rcases same with rfl | ⟨divides, -⟩
  · rfl
  · cases divides.symm.trans whole

theorem Interchangeable.symm (same : Interchangeable c d) : Interchangeable d c :=
  same.imp Eq.symm And.symm

theorem divides_of_isAlpha (alpha : letter.isAlpha = true) : windows.divides letter = false := by
  apply Bool.eq_false_iff.mpr
  intro divides
  rcases Bool.or_eq_true_iff.mp divides with same | same
  · cases eq_of_beq same
    cases alpha
  · cases eq_of_beq same
    cases alpha

/-! ### Texts -/

namespace SeparatedAlike

theorem refl (text : List Char) : SeparatedAlike text text :=
  List.forall₂_same.mpr fun _ _ => .inl rfl

theorem symm (alike : SeparatedAlike text text') : SeparatedAlike text' text :=
  List.Forall₂.flip (alike.imp fun _ _ => Interchangeable.symm)

theorem append (front : SeparatedAlike text text') (back : SeparatedAlike body body') :
    SeparatedAlike (text ++ body) (text' ++ body') :=
  List.rel_append front back

theorem eq_nil_iff (alike : SeparatedAlike text text') : text = [] ↔ text' = [] := by
  rw [← List.length_eq_zero_iff, ← List.length_eq_zero_iff, List.Forall₂.length_eq alike]

theorem fieldsOf_eq (alike : SeparatedAlike text text') :
    Text.fieldsOf windows.divides text = Text.fieldsOf windows.divides text' := by
  induction alike with
  | nil => rfl
  | @cons c d rest rest' same _ ih =>
    rw [Text.fieldsOf, Text.fieldsOf, ih, same.divides_eq]
    by_cases divides : windows.divides d = true
    · rw [if_pos divides, if_pos divides]
    · have whole : windows.divides c = false :=
        same.divides_eq.trans (Bool.eq_false_iff.mpr divides)
      rw [if_neg divides, if_neg divides, same.eq_of_whole whole]

theorem separated_eq (alike : SeparatedAlike text text') :
    text.head?.any windows.divides = text'.head?.any windows.divides := by
  cases alike with
  | nil => rfl
  | cons same _ => exact same.divides_eq

theorem of_drive (alike : SeparatedAlike (letter :: ':' :: body) text)
    (alpha : letter.isAlpha = true) :
    ∃ body', text = letter :: ':' :: body' ∧ SeparatedAlike body body' := by
  obtain _ | ⟨first, _ | ⟨second, rest⟩⟩ := alike
  cases first.eq_of_whole (divides_of_isAlpha alpha)
  cases second.eq_of_whole rfl
  exact ⟨_, rfl, rest⟩

end SeparatedAlike

namespace Respelled

theorem eq_nil_iff (spelled : Respelled text text') : text = [] ↔ text' = [] := by
  cases spelled with
  | separators alike => exact alike.eq_nil_iff
  | drive => exact ⟨nofun, nofun⟩

theorem append (spelled : Respelled text text') (alike : SeparatedAlike body body') :
    Respelled (text ++ body) (text' ++ body') := by
  cases spelled with
  | separators front => exact .separators (front.append alike)
  | drive alpha same front => exact .drive alpha same (front.append alike)

theorem cases_splitDrive? (spelled : Respelled text text') :
    (∃ letter letter' body body', splitDrive? text = some (letter, body) ∧
        splitDrive? text' = some (letter', body') ∧ letter'.toUpper = letter.toUpper ∧
        SeparatedAlike body body') ∨
      splitDrive? text = none ∧ splitDrive? text' = none ∧ SeparatedAlike text text' := by
  cases spelled with
  | @drive letter letter' body body' alpha same alike =>
    have alpha' : letter'.isAlpha = true := by
      rw [← Char.isAlpha_toUpper_eq_isAlpha, same, Char.isAlpha_toUpper_eq_isAlpha, alpha]
    exact .inl ⟨letter, letter', body, body', splitDrive?_eq_some_iff.mpr ⟨rfl, alpha⟩,
      splitDrive?_eq_some_iff.mpr ⟨rfl, alpha'⟩, same, alike⟩
  | separators alike =>
    cases drive : splitDrive? text with
    | some found =>
      obtain ⟨letter, body⟩ := found
      obtain ⟨rfl, alpha⟩ := splitDrive?_eq_some_iff.mp drive
      obtain ⟨body', rfl, alike'⟩ := alike.of_drive alpha
      exact .inl ⟨letter, letter, body, body', rfl, splitDrive?_eq_some_iff.mpr ⟨rfl, alpha⟩, rfl,
        alike'⟩
    | none =>
      refine .inr ⟨rfl, ?_, alike⟩
      apply Option.eq_none_iff_forall_ne_some.mpr
      rintro ⟨letter, body⟩ drive'
      obtain ⟨rfl, alpha⟩ := splitDrive?_eq_some_iff.mp drive'
      obtain ⟨body', rfl, -⟩ := alike.symm.of_drive alpha
      cases drive.symm.trans (splitDrive?_eq_some_iff.mpr ⟨rfl, alpha⟩)

end Respelled

/-! ### Parts -/

variable {parts parts' : List String}

theorem separatedAlike_joinParts (separator : Char)
    (alike : List.Forall₂ (fun part part' => SeparatedAlike part.toList part'.toList) parts parts') :
    SeparatedAlike (Text.joinParts separator parts).toList
      (Text.joinParts separator parts').toList := by
  induction alike with
  | nil => exact .refl _
  | cons part _ ih =>
    simp only [Text.toList_joinParts_cons, part.eq_nil_iff, ih.eq_nil_iff]
    exact part.append ((SeparatedAlike.refl _).append ih)

theorem PartsRespelled.joined (separator : Char) (spelled : PartsRespelled parts parts') :
    Respelled (Text.joinParts separator parts).toList (Text.joinParts separator parts').toList := by
  induction spelled with
  | begin first more =>
    have later := separatedAlike_joinParts separator more
    simp only [Text.toList_joinParts_cons, first.eq_nil_iff, later.eq_nil_iff]
    exact first.append ((SeparatedAlike.refl _).append later)
  | blank _ ih =>
    rw [Text.toList_joinParts_cons, Text.toList_joinParts_cons]
    exact ih

end PathStyle

namespace Path

open PathStyle

variable {roots : List Root} {text text' : String} {letter letter' : Char}

theorem driveAmong_eq_of_toUpper (same : letter'.toUpper = letter.toUpper) :
    driveAmong roots letter' = driveAmong roots letter := by
  have drive : Root.drive letter' = Root.drive letter := by
    rw [Root.drive, Root.drive, same]
  rw [driveAmong, driveAmong, drive]

/-- Texts that are spelled differently begin with the same root, or are refused for the same reason. -/
theorem heading_of_respelled (roots : List Root) (spelled : Respelled text.toList text'.toList) :
    (∃ anchor body body', heading .windows roots text = .ok (anchor, body) ∧
        heading .windows roots text' = .ok (anchor, body') ∧
        SeparatedAlike body.toList body'.toList) ∨
      ∃ error error', heading .windows roots text = .error error ∧
        heading .windows roots text' = .error error' ∧ error.kind = error'.kind := by
  unfold heading
  rcases spelled.cases_splitDrive? with
    ⟨letter, letter', body, body', drive, drive', same, alike⟩ | ⟨driveless, driveless', alike⟩
  · simp only [drive, drive', ne_eq, alike.eq_nil_iff, alike.separated_eq]
    by_cases dangling : ¬body' = [] ∧ !body'.head?.any windows.divides
    · rw [if_pos dangling, if_pos dangling]
      exact .inr ⟨_, _, rfl, rfl, rfl⟩
    · rw [if_neg dangling, if_neg dangling, driveAmong_eq_of_toUpper same]
      exact .inl ⟨_, _, _, rfl, rfl, by simpa using alike⟩
  · simp only [driveless, driveless', alike.separated_eq]
    by_cases separated : text'.toList.head?.any windows.divides = true
    · rw [if_pos separated, if_pos separated]
      exact .inr ⟨_, _, rfl, rfl, rfl⟩
    · rw [if_neg separated, if_neg separated]
      exact .inl ⟨_, _, _, rfl, rfl, alike⟩

/-- Texts that are spelled differently come to the same path, or are refused for the same reason. -/
theorem kind_ofText_of_respelled (roots : List Root)
    (spelled : Respelled text.toList text'.toList) :
    (ofText .windows roots text).mapError FsError.kind =
      (ofText .windows roots text').mapError FsError.kind := by
  rcases heading_of_respelled roots spelled with
    ⟨anchor, body, body', headed, headed', alike⟩ | ⟨error, error', refused, refused', same⟩
  · have fields : Text.fields windows.divides body = Text.fields windows.divides body' := by
      rw [Text.fields, Text.fields, alike.fieldsOf_eq]
    rw [ofText_of_heading headed, ofText_of_heading headed', namesIn, namesIn, fields]
    exact kind_bind_assemble _ anchor _ text text'
  · rw [ofText, ofText, refused, refused']
    exact congrArg Except.error same

/-- A windows path may be spelled with other separators, and with its drive in upper or lower case: it
comes to the same path, or is refused for the same reason. It may also be given in two parts where
there is a separator. -/
theorem respelled_windows_parts_agree (roots : List Root) :
    (∀ first first' more more', PartsRespelled (first :: more) (first' :: more') →
      (parse .windows roots first more).mapError FsError.kind =
        (parse .windows roots first' more').mapError FsError.kind) ∧
    ∀ front separator back rest, front ≠ "" → windows.divides separator = true → back ≠ "" →
      (parse .windows roots (front ++ String.singleton separator ++ back) rest).mapError
          FsError.kind =
        (parse .windows roots front (back :: rest)).mapError FsError.kind := by
  constructor
  · intro first first' more more' spelled
    exact kind_ofText_of_respelled roots (spelled.joined _)
  · intro front separator back rest nonempty divides nonempty'
    have alike : SeparatedAlike (front ++ String.singleton separator ++ back).toList
        (front ++ String.singleton windows.separator ++ back).toList := by
      have middle : SeparatedAlike [separator] [windows.separator] :=
        .cons (.inr ⟨divides, divides_separator windows⟩) .nil
      simpa using (SeparatedAlike.refl front.toList).append (middle.append (.refl back.toList))
    rw [parse, parse, Text.joinParts_cons_cons nonempty nonempty']
    apply kind_ofText_of_respelled
    exact (PartsRespelled.begin (.separators alike) (List.forall₂_same.mpr fun _ _ => .refl _)).joined _

/-- A drive in lower case, with separators of both kinds and an empty part before it. -/
theorem respelled_windows_parts_agree_on_drive :
    let roots := [Root.drive 'C']
    let path : Path := .element ⟨some (.drive 'C'), ["a", "b"], '\\', by simp⟩
    PartsRespelled ["", "c:/a", "b/"] ["", "C:\\a", "b\\"] ∧
      parse .windows roots "" ["c:/a", "b/"] = .ok path ∧
      (parse .windows roots "" ["c:/a", "b/"]).mapError FsError.kind =
        (parse .windows roots "" ["C:\\a", "b\\"]).mapError FsError.kind ∧
      windows.divides '/' = true ∧
      (parse .windows roots ("c:" ++ String.singleton '/' ++ "a") ["b/"]).mapError FsError.kind =
        (parse .windows roots "c:" ["a", "b/"]).mapError FsError.kind := by
  intro roots path
  obtain ⟨spelling, division⟩ := respelled_windows_parts_agree roots
  have slash : Interchangeable '/' '\\' := .inr ⟨rfl, rfl⟩
  have drive : Respelled "c:/a".toList "C:\\a".toList :=
    .drive rfl rfl (.cons slash (.cons (.inl rfl) .nil))
  have name : SeparatedAlike "b/".toList "b\\".toList := .cons (.inl rfl) (.cons slash .nil)
  have spelled : PartsRespelled ["", "c:/a", "b/"] ["", "C:\\a", "b\\"] :=
    .blank (.begin drive (.cons name .nil))
  exact ⟨spelled, rfl, spelling _ _ _ _ spelled, rfl,
    division "c:" '/' "a" ["b/"] (by decide) rfl (by decide)⟩

end Path

end CoupledFs
