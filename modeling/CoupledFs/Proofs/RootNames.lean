import CoupledFs.Proofs.Building
import CoupledFs.Proofs.PathText

/-! The names of roots: which ones a style accepts, what roots they stand for, and where the text of a
name leads when it is read as a path. -/

namespace CoupledFs

namespace Root

theorem toList_display_drive (letter : Char) :
    (drive letter).display.toList = letter.toUpper :: ':' :: ['\\'] := by
  have open_end : (drive letter).name.toList.getLast? ≠ some (drive letter).separator := by
    simp [drive]
  rw [display, if_neg open_end]
  simp [drive]

end Root

namespace PathStyle

variable {style : PathStyle} {name : String} {root : Root}

theorem rootNamed_unix_eq_ok_iff : rootNamed .unix name = .ok root ↔ name = "/" ∧ root = .slash := by
  unfold rootNamed
  by_cases slash : name = "/"
  · simp [slash, eq_comm]
  · simp [slash]

/-- A drive is named by its letter and a colon, and at most one separator may follow. -/
theorem rootNamed_windows_eq_ok_iff : rootNamed .windows name = .ok root ↔
    ∃ letter rest, splitDrive? name.toList = some (letter, rest) ∧
      (rest = [] ∨ ∃ c, rest = [c] ∧ windows.divides c = true) ∧ root = .drive letter := by
  constructor
  · intro named
    simp only [rootNamed] at named
    split at named
    · rename_i letter drive
      cases named
      exact ⟨letter, [], drive, .inl rfl, rfl⟩
    · rename_i letter c drive
      split at named
      · rename_i separator
        cases named
        exact ⟨letter, [c], drive, .inr ⟨c, rfl, separator⟩, rfl⟩
      · cases named
    · cases named
  · rintro ⟨letter, rest, drive, bare | ⟨c, bare, separator⟩, rfl⟩
    · simp only [rootNamed, drive, bare]
    · simp only [rootNamed, drive, bare, separator, if_true]

/-- The roots of a style: the one that has no name but `/`, or the drives. -/
def HasRoot (style : PathStyle) (root : Root) : Prop :=
  match style with
  | unix => root = .slash
  | windows => ∃ letter, root = .drive letter

theorem hasRoot_of_rootNamed (named : style.rootNamed name = .ok root) : style.HasRoot root := by
  cases style with
  | unix => exact (rootNamed_unix_eq_ok_iff.mp named).2
  | windows =>
    obtain ⟨letter, -, -, -, same⟩ := rootNamed_windows_eq_ok_iff.mp named
    exact ⟨letter, same⟩

theorem length_display_of_hasRoot (owned : style.HasRoot root) : root.display.length ≤ 3 := by
  cases style with
  | unix =>
    obtain rfl : root = .slash := owned
    decide
  | windows =>
    obtain ⟨letter, rfl⟩ := owned
    rw [← String.length_toList, Root.toList_display_drive]
    exact Nat.le_refl 3

/-- The roots that a style has without being asked answer to their names. -/
theorem rootNamed_name_of_default (default : root ∈ style.defaultRoots) :
    style.rootNamed root.name = .ok root := by
  cases style with
  | unix =>
    obtain rfl := List.mem_singleton.mp default
    rfl
  | windows =>
    obtain rfl := List.mem_singleton.mp default
    rfl

end PathStyle

namespace Path

variable {style : PathStyle} {roots : List Root} {root : Root}

/-- Where all roots are drives, a letter stands for its own drive, whether or not that exists. -/
theorem driveAmong_eq (drives : ∀ root ∈ roots, PathStyle.windows.HasRoot root) (letter : Char) :
    driveAmong roots letter = .drive letter := by
  simp only [driveAmong]
  cases found : roots.find? (·.name = (Root.drive letter).name) with
  | none => rfl
  | some root =>
    obtain ⟨other, rfl⟩ := drives root (List.mem_of_find?_eq_some found)
    have same : (Root.drive other).name = (Root.drive letter).name := by
      simpa using List.find?_some found
    exact congrArg (Root.mk · '\\') same

theorem parse_of_rootNamed {name : String} (named : style.rootNamed name = .ok root)
    (owned : ∀ root ∈ roots, style.HasRoot root) : parse style roots name [] = .ok (.root root) := by
  rw [parse, Text.joinParts_singleton]
  cases style with
  | unix =>
    obtain ⟨rfl, rfl⟩ := PathStyle.rootNamed_unix_eq_ok_iff.mp named
    rfl
  | windows =>
    obtain ⟨letter, rest, drive, closed, rfl⟩ := PathStyle.rootNamed_windows_eq_ok_iff.mp named
    apply ofText_eq_ok_iff.mpr
    refine ⟨some (driveAmong roots letter), String.ofList rest, [], ?_, ?_, ?_⟩
    · apply heading_windows_eq_ok_iff.mpr
      left
      refine ⟨letter, rest, drive, ?_, rfl, rfl⟩
      rcases closed with bare | ⟨c, rfl, separator⟩
      · exact .inl bare
      · exact .inr separator
    · rcases closed with rfl | ⟨c, rfl, separator⟩
      · rfl
      · have either : c = '\\' ∨ c = '/' := by simpa [PathStyle.divides] using separator
        rcases either with rfl | rfl <;> rfl
    · rw [driveAmong_eq owned]
      rfl

end Path

namespace Config

variable {config : Config} {style : PathStyle} {found roots : List Root} {names : List String}
  {name : String}

/-- Names are resolved if the style accepts all of them and no root is met twice. -/
theorem resolveAfter_eq_ok_iff (apart : found.Nodup) :
    resolveAfter style found names = .ok roots ↔
      ∃ more, names.map style.rootNamed = more.map .ok ∧ roots = found ++ more ∧ roots.Nodup := by
  induction names generalizing found with
  | nil =>
    constructor
    · intro resolved
      cases resolved
      exact ⟨[], rfl, (List.append_nil _).symm, apart⟩
    · rintro ⟨more, named, rfl, -⟩
      obtain rfl := List.map_eq_nil_iff.mp named.symm
      rw [List.append_nil]
      rfl
  | cons name names ih =>
    cases named : style.rootNamed name with
    | error error =>
      constructor
      · intro resolved
        rw [resolveAfter, named] at resolved
        cases resolved
      · rintro ⟨more, same, -⟩
        cases more <;> simp [named] at same
    | ok root =>
      rw [resolveAfter_cons named]
      by_cases twice : root ∈ found
      · rw [if_pos twice]
        constructor
        · intro resolved
          cases resolved
        · rintro ⟨more, same, rfl, distinct⟩
          obtain ⟨first, rest, rfl, first_eq, -⟩ := List.map_eq_cons_iff.mp same.symm
          rw [named] at first_eq
          cases first_eq
          obtain ⟨-, -, disjoint⟩ := List.nodup_append.mp distinct
          exact absurd rfl (disjoint root twice root List.mem_cons_self)
      · have apart' : (found ++ [root]).Nodup := by
          rw [List.perm_append_comm.nodup_iff]
          exact List.nodup_cons.mpr ⟨twice, apart⟩
        rw [if_neg twice, ih apart']
        constructor
        · rintro ⟨more, same, rfl, distinct⟩
          refine ⟨root :: more, ?_, by simp, distinct⟩
          rw [List.map_cons, List.map_cons, named, same]
        · rintro ⟨more, same, rfl, distinct⟩
          obtain ⟨first, rest, rfl, first_eq, rest_eq⟩ := List.map_eq_cons_iff.mp same.symm
          rw [named] at first_eq
          cases first_eq
          exact ⟨rest, rest_eq.symm, by simp, distinct⟩

/-- The names of the roots: those that are listed, or those that the style's own roots bear. -/
def rootNames (config : Config) : List String :=
  config.roots.getD (config.pathStyle.defaultRoots.map Root.name)

theorem resolvedRoots_eq_ok_iff : config.resolvedRoots = .ok roots ↔
    config.rootNames.map config.pathStyle.rootNamed = roots.map .ok ∧ roots.Nodup := by
  unfold resolvedRoots rootNames
  cases config.roots with
  | some names =>
    rw [Option.getD_some]
    constructor
    · intro resolved
      obtain ⟨more, named, rfl, distinct⟩ := (resolveAfter_eq_ok_iff List.nodup_nil).mp resolved
      exact ⟨named, distinct⟩
    · rintro ⟨named, distinct⟩
      exact (resolveAfter_eq_ok_iff List.nodup_nil).mpr ⟨roots, named, rfl, distinct⟩
  | none =>
    have named : (config.pathStyle.defaultRoots.map Root.name).map config.pathStyle.rootNamed =
        config.pathStyle.defaultRoots.map .ok := by
      rw [List.map_map]
      apply List.map_congr_left
      intro root default
      exact PathStyle.rootNamed_name_of_default default
    rw [Option.getD_none, named, List.map_inj_right fun _ _ => Except.ok.inj]
    constructor
    · intro resolved
      cases resolved
      exact ⟨rfl, by cases config.pathStyle <;> simp [PathStyle.defaultRoots]⟩
    · rintro ⟨rfl, -⟩
      rfl

theorem exists_root_of_map (named : names.map style.rootNamed = roots.map .ok)
    (listed : name ∈ names) : ∃ root ∈ roots, style.rootNamed name = .ok root := by
  have answer : style.rootNamed name ∈ roots.map .ok := by
    rw [← named]
    exact List.mem_map_of_mem listed
  obtain ⟨root, member, same⟩ := List.mem_map.mp answer
  exact ⟨root, member, same.symm⟩

theorem exists_rootNamed_of_resolvedRoots (resolved : config.resolvedRoots = .ok roots) :
    ∀ root ∈ roots, ∃ name, config.pathStyle.rootNamed name = .ok root := by
  intro root member
  obtain ⟨named, -⟩ := resolvedRoots_eq_ok_iff.mp resolved
  have answer : .ok root ∈ config.rootNames.map config.pathStyle.rootNamed := by
    rw [named]
    exact List.mem_map_of_mem member
  obtain ⟨name, -, accepted⟩ := List.mem_map.mp answer
  exact ⟨name, accepted⟩

theorem hasRoot_of_resolvedRoots (resolved : config.resolvedRoots = .ok roots) :
    ∀ root ∈ roots, config.pathStyle.HasRoot root := by
  intro root member
  obtain ⟨name, accepted⟩ := exists_rootNamed_of_resolvedRoots resolved root member
  exact PathStyle.hasRoot_of_rootNamed accepted

/-- A configuration is valid if it shows the basic view and its roots can be resolved to some. -/
theorem validate_eq_ok_iff : config.validate = .ok () ↔
    config.roots ≠ some [] ∧ .basic ∈ config.views ∧ ∃ roots, config.resolvedRoots = .ok roots := by
  unfold validate
  by_cases rootless : config.roots = some []
  · rw [if_pos rootless]
    constructor
    · intro valid
      cases valid
    · rintro ⟨rooted, -⟩
      exact absurd rootless rooted
  rw [if_neg rootless]
  by_cases basic : .basic ∈ config.views
  · have shown : config.supports .basic = true := by simpa [supports] using basic
    rw [if_pos shown]
    cases resolved : config.resolvedRoots with
    | ok roots =>
      constructor
      · intro _
        exact ⟨rootless, basic, roots, rfl⟩
      · intro _
        rfl
    | error error =>
      constructor
      · intro valid
        cases valid
      · rintro ⟨-, -, roots, found⟩
        cases found
  · have hidden : ¬config.supports .basic = true := by simpa [supports] using basic
    rw [if_neg hidden]
    constructor
    · intro valid
      cases valid
    · rintro ⟨-, shown, -⟩
      exact absurd shown basic

theorem exists_map_rootNamed_iff :
    (∃ roots : List Root, names.map style.rootNamed = roots.map .ok) ↔
      ∀ name ∈ names, ∃ root, style.rootNamed name = .ok root := by
  constructor
  · rintro ⟨roots, named⟩ name listed
    obtain ⟨root, -, accepted⟩ := exists_root_of_map named listed
    exact ⟨root, accepted⟩
  · intro accepted
    induction names with
    | nil => exact ⟨[], rfl⟩
    | cons name names ih =>
      obtain ⟨root, named⟩ := accepted name List.mem_cons_self
      obtain ⟨roots, rest⟩ := ih fun other member => accepted other (List.mem_cons_of_mem name member)
      refine ⟨root :: roots, ?_⟩
      rw [List.map_cons, List.map_cons, named, rest]

/-- What a configuration has to say for a file system to be built from it. -/
structure Sound (config : Config) : Prop where
  basic : .basic ∈ config.views
  rooted : ∀ names ∈ config.roots, names ≠ []
  accepted : ∀ names ∈ config.roots, ∀ name ∈ names, ∃ root, config.pathStyle.rootNamed name = .ok root
  distinct : ∀ names ∈ config.roots,
    names.Pairwise fun name other => config.pathStyle.rootNamed name ≠ config.pathStyle.rootNamed other

theorem sound_iff_validate : config.Sound ↔ config.validate = .ok () := by
  rw [validate_eq_ok_iff]
  cases given : config.roots with
  | none =>
    constructor
    · intro sound
      exact ⟨nofun, sound.basic, config.pathStyle.defaultRoots, by rw [resolvedRoots, given]⟩
    · rintro ⟨-, basic, -⟩
      refine ⟨basic, ?_, ?_, ?_⟩ <;> simp [given]
  | some names =>
    have listed : config.rootNames = names := by rw [rootNames, given, Option.getD_some]
    constructor
    · intro sound
      obtain ⟨roots, named⟩ := exists_map_rootNamed_iff.mpr (sound.accepted names given)
      have distinct : roots.Nodup := by
        have apart := List.pairwise_map.mpr (sound.distinct names given)
        rw [named] at apart
        exact (List.pairwise_map.mp apart).imp fun differs same => differs (congrArg _ same)
      refine ⟨?_, sound.basic, roots, ?_⟩
      · intro empty
        exact sound.rooted names given (Option.some.inj empty)
      · exact resolvedRoots_eq_ok_iff.mpr ⟨listed ▸ named, distinct⟩
    · rintro ⟨rooted, basic, roots, resolved⟩
      obtain ⟨named, distinct⟩ := resolvedRoots_eq_ok_iff.mp resolved
      rw [listed] at named
      have apart : (names.map config.pathStyle.rootNamed).Nodup := by
        rw [named]
        exact List.pairwise_map.mpr (distinct.imp fun differs same => differs (Except.ok.inj same))
      refine ⟨basic, ?_, ?_, ?_⟩ <;> simp only [given, Option.mem_some_iff, forall_eq']
      · rintro rfl
        exact rooted rfl
      · exact exists_map_rootNamed_iff.mp ⟨roots, named⟩
      · exact List.pairwise_map.mp apart

end Config

end CoupledFs
