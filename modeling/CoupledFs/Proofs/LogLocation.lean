import CoupledFs.Log.Location
import CoupledFs.Proofs.HostPaths

/-! Where records go, by what has been said about a file and a directory for them. -/

namespace CoupledFs.Log

open Host.Path

theorem isPlain_logFile {component : String} (whole : '/' ∉ component.toList) :
    IsPlain (component ++ ".log") where
  nonempty := by simp
  whole := by simpa using whole
  here same := by
    have ends := congrArg (·.toList.getLast?) same
    simp at ends
  above same := by
    have ends := congrArg (·.toList.getLast?) same
    simp at ends

namespace Settings

variable {settings : Settings} {environment : Environment} {component file directory : String}

/-- Settings without a directory to put files in: none is named, or a blank one. -/
def Homeless (settings : Settings) : Prop :=
  ∀ directory, settings.directory = some directory → Text.isBlank directory = true

theorem homeless_of_blank (given : settings.directory = some directory)
    (blank : Text.isBlank directory = true) : settings.Homeless := by
  intro other given'
  cases given.symm.trans given'
  exact blank

theorem usableDirectory?_eq_none_iff : settings.usableDirectory? = none ↔ settings.Homeless := by
  simp [usableDirectory?, Option.filter_eq_none_iff, Homeless]

theorem usableDirectory?_of_named (named : settings.directory = some directory)
    (usable : Text.isBlank directory = false) : settings.usableDirectory? = some directory := by
  rw [usableDirectory?, named]
  simp [usable]

theorem location?_of_absolute (named : settings.file = some file) (absolute : isAbsolute file = true) :
    settings.location? environment component = some file := by
  simp only [location?, named]
  rw [if_pos absolute]

theorem location?_of_relative (named : settings.file = some file) (relative : isAbsolute file = false)
    (usable : settings.usableDirectory? = some directory) :
    settings.location? environment component = some (join directory file) := by
  simp only [location?, named, usable]
  rw [if_neg (by simp [relative])]

theorem location?_of_homeless (named : settings.file = some file)
    (relative : isAbsolute file = false) (homeless : settings.Homeless) :
    settings.location? environment component =
      if (parent? file).any (· ≠ "") then some file
      else some (withFileName (standardFile environment component) file) := by
  simp only [location?, named, usableDirectory?_eq_none_iff.mpr homeless]
  rw [if_neg (by simp [relative])]

theorem exists_location?_of_file (named : settings.file = some file) :
    ∃ place, settings.location? environment component = some place := by
  cases absolute : isAbsolute file with
  | true => exact ⟨_, location?_of_absolute named absolute⟩
  | false =>
    cases usable : settings.usableDirectory? with
    | some directory => exact ⟨_, location?_of_relative named absolute usable⟩
    | none =>
      rw [location?_of_homeless named absolute (usableDirectory?_eq_none_iff.mp usable)]
      split <;> exact ⟨_, rfl⟩

theorem location?_of_nameless (unnamed : settings.file = none) :
    settings.location? environment component =
      match settings.usableDirectory? with
      | some directory => some (join directory (component ++ ".log"))
      | none => settings.directory.map fun _ => standardFile environment component := by
  simp only [location?, unnamed]
  cases settings.usableDirectory? <;> rfl

theorem location?_eq_none_iff : settings.location? environment component = none ↔
    settings.directory = none ∧ settings.file = none := by
  constructor
  · intro nothing
    cases named : settings.file with
    | some file =>
      obtain ⟨place, found⟩ := exists_location?_of_file named
      cases found.symm.trans nothing
    | none =>
      rw [location?_of_nameless named] at nothing
      split at nothing
      · cases nothing
      · exact ⟨Option.map_eq_none_iff.mp nothing, rfl⟩
  · rintro ⟨undirected, unnamed⟩
    rw [location?_of_nameless unnamed, usableDirectory?, undirected]
    rfl

theorem location?_of_blank (named : settings.file = some file) (homeless : settings.Homeless) :
    settings.location? environment component =
      { settings with directory := none }.location? environment component := by
  let bare : Settings := { settings with directory := none }
  have named' : bare.file = some file := named
  have homeless' : bare.Homeless := nofun
  cases absolute : isAbsolute file with
  | true => rw [location?_of_absolute named absolute, location?_of_absolute named' absolute]
  | false =>
    rw [location?_of_homeless named absolute homeless,
      location?_of_homeless named' absolute homeless']

theorem parent?_of_plain (plain : IsPlain file) : parent? file = some "" := by
  have joined := parent?_join "" plain
  rwa [join, if_pos (.inr rfl)] at joined

/-- A plain name takes the place of the name of the standard file. -/
theorem location?_of_plain (named : settings.file = some file) (plain : IsPlain file)
    (homeless : settings.Homeless) : settings.location? environment component =
      some (withFileName (standardFile environment component) file) := by
  rw [location?_of_homeless named (isAbsolute_of_whole plain.whole) homeless,
    parent?_of_plain plain]
  rfl

theorem names_join_logFile (directory : String) (whole : '/' ∉ component.toList) :
    names (join directory (component ++ ".log")) = names directory ++ [component ++ ".log"] := by
  have plain := isPlain_logFile whole
  rw [names_join directory (isAbsolute_of_whole plain.whole), names_eq (component ++ ".log"),
    pieces_of_whole plain.nonempty plain.whole]
  simp [plain.here]

/-- Where settings send the records of a component. -/
structure Located (settings : Settings) (environment : Environment) (component : String) : Prop where
  console : settings.location? environment component = none ↔
    settings.directory = none ∧ settings.file = none
  blank : ∀ file directory, settings.file = some file → settings.directory = some directory →
    Text.isBlank directory = true → settings.location? environment component =
      { settings with directory := none }.location? environment component
  absolute : ∀ file, settings.file = some file → isAbsolute file = true →
    ∀ directory other, { settings with directory }.location? environment other = some file
  within : ∀ file directory, settings.file = some file → isAbsolute file = false →
    settings.directory = some directory → Text.isBlank directory = false →
    ∃ place, settings.location? environment component = some place ∧
      isAbsolute place = isAbsolute directory ∧ names place = names directory ++ names file
  named : ∀ directory, settings.file = none → settings.directory = some directory →
    Text.isBlank directory = false →
    ∃ place, settings.location? environment component = some place ∧
      isAbsolute place = isAbsolute directory ∧
      names place = names directory ++ [component ++ ".log"]
  beside : ∀ file, settings.file = some file → IsPlain file → settings.Homeless →
    ∃ place, settings.location? environment component = some place ∧
      parent? place = parent? (standardFile environment component) ∧ fileName? place = some file
  itself : ∀ file parent, settings.file = some file → isAbsolute file = false →
    parent? file = some parent → parent ≠ "" → settings.Homeless →
    settings.location? environment component = some file
  standard : ∀ directory, settings.file = none → settings.directory = some directory →
    Text.isBlank directory = true →
    settings.location? environment component = some (standardFile environment component)

/-- Settings send records to the console if they name neither a file nor a directory. An absolute file
is taken whatever else is said; a file in a directory that is not blank is found there, and where no file
is named there is one for the component. Without such a directory, a plain file name stands in for that of
the standard file, and a file with a directory of its own stands for itself. -/
theorem located (settings : Settings) (environment : Environment) {component : String}
    (whole : '/' ∉ component.toList) : settings.Located environment component where
  console := location?_eq_none_iff
  blank := fun file directory named given blank =>
    location?_of_blank named (homeless_of_blank given blank)
  absolute := fun file named absolute directory other => location?_of_absolute named absolute
  within := by
    intro file directory named relative given usable
    have found := usableDirectory?_of_named given usable
    exact ⟨_, location?_of_relative named relative found, isAbsolute_join directory relative,
      names_join directory relative⟩
  named := by
    intro directory unnamed given usable
    refine ⟨join directory (component ++ ".log"), ?_, ?_, names_join_logFile directory whole⟩
    · rw [location?_of_nameless unnamed, usableDirectory?_of_named given usable]
    · exact isAbsolute_join directory (isAbsolute_of_whole (isPlain_logFile whole).whole)
  beside := by
    intro file named plain homeless
    have standard := isPlain_logFile whole
    refine ⟨_, location?_of_plain named plain homeless, ?_, ?_⟩ <;>
      rw [standardFile, withFileName_join _ standard]
    · rw [parent?_join _ plain, parent?_join _ standard, tidy_tidy]
    · exact fileName?_join _ plain
  itself := by
    intro file parent named relative within nonempty homeless
    rw [location?_of_homeless named relative homeless, within]
    simp [nonempty]
  standard := by
    intro directory unnamed given blank
    have homeless := homeless_of_blank given blank
    rw [location?_of_nameless unnamed, usableDirectory?_eq_none_iff.mpr homeless, given]
    rfl

/-- A plain file stands beside the standard one if the directory is blank; in a directory that is
spelled with slashes and dots, it is found all the same. -/
theorem located_in_odd_directories :
    let environment : Environment := { home := some "/home/u" }
    let blank : Settings := { directory := some " ", file := some "run.log" }
    let spelled : Settings := { directory := some "./logs//", file := some "./../run.log" }
    '/' ∉ "memfs".toList ∧
      (∃ place, blank.location? environment "memfs" = some place ∧
        parent? place = some "/home/u/.local/share/memfs" ∧ fileName? place = some "run.log") ∧
      ∃ place, spelled.location? environment "memfs" = some place ∧
        isAbsolute place = false ∧ names place = ["logs", "..", "run.log"] := by
  intro environment blank spelled
  have whole : '/' ∉ "memfs".toList := by decide
  have plain : IsPlain "run.log" := by constructor <;> decide
  have standard : parent? (standardFile environment "memfs") =
      some "/home/u/.local/share/memfs" := by decide
  have nothing : Text.isBlank " " = true := by
    simp [Text.isBlank, Text.isBlankChar, Text.inRanges, Text.blankRanges]
  have something : Text.isBlank "./logs//" = false := by
    simp [Text.isBlank, Text.isBlankChar, Text.inRanges, Text.blankRanges]
  obtain ⟨place, found, parent, last⟩ := (located blank environment whole).beside "run.log" rfl plain
    (homeless_of_blank rfl nothing)
  obtain ⟨place', found', absolute, named⟩ := (located spelled environment whole).within _ _ rfl
    (by decide) rfl something
  have directory : names "./logs//" = ["logs"] := by decide
  have file : names "./../run.log" = ["..", "run.log"] := by decide
  rw [directory, file] at named
  exact ⟨whole, ⟨place, found, parent.trans standard, last⟩, place', found', absolute, named⟩

end Settings

end CoupledFs.Log
