import CoupledFs.Config.Document
import CoupledFs.Proofs.Forest
import CoupledFs.Proofs.Registry
import CoupledFs.Proofs.RootNames

/-! A configuration and the file system that is built from it: there is one just if the configuration is
valid, and it has the roots that the configuration names, under these names. -/

namespace CoupledFs

theorem Config.validate_of_ofDocument {document : List UInt8} {config : Config}
    (read : ofDocument document = .ok config) : config.validate = .ok () := by
  unfold ofDocument at read
  split at read
  · cases read
  · rename_i described _
    cases valid : described.validate with
    | error error =>
      rw [valid] at read
      cases read
    | ok =>
      rw [valid] at read
      cases read
      exact valid

namespace FileSystem

variable {key : String} {config : Config} {registered : Bool} {before graph : Graph}
  {fs : FileSystem}

theorem outcome_getPath (opened : fs.isOpen = true) (first : String) (more : List String)
    (graph : Graph) : (fs.getPath first more graph).outcome =
      (Path.parse fs.config.pathStyle fs.roots.roots first more, graph) := by
  rw [getPath, Action.outcome_bind, outcome_ensureOpen, check_of_open opened]
  rfl

/-- Building comes to what the validation of the configuration comes to. -/
theorem answer_build_map (key : String) (config : Config) (registered : Bool) (before : Graph) :
    (build key config registered before).answer.map (fun _ => ()) = config.validate := by
  change (build key config registered before).outcome.1.map _ = _
  cases valid : config.validate with
  | error error =>
    rw [outcome_build_of_invalid valid]
    rfl
  | ok =>
    obtain ⟨fs, graph, built⟩ := exists_build valid key registered before
    rw [built]
    rfl

/-- What a file system has that was just built from a configuration: an empty directory for each root
that the configuration names, where the name leads. Relative paths start at the first of them. -/
structure Furnished (config : Config) (fs : FileSystem) (graph : Graph) : Prop where
  roots : ∃ roots, config.resolvedRoots = .ok roots ∧ fs.roots.roots.Perm roots ∧
    fs.roots.size = config.rootNames.length ∧ roots.head? = some fs.defaultRoot
  empty : ∀ root ∈ fs.roots.roots, ∃ directory, fs.roots.get? root = some directory ∧
    (graph.node directory).childNames? = some []
  apart : ∀ root root' directory, fs.roots.get? root = some directory →
    fs.roots.get? root' = some directory → root = root'
  named : ∀ name ∈ config.rootNames, ∃ root ∈ fs.roots.roots, ∃ directory,
    config.pathStyle.rootNamed name = .ok root ∧ fs.roots.get? root = some directory ∧
      (fs.getPath name [] graph).outcome = (.ok (.root root), graph) ∧
      fs.resolveRoot (.root root) = .ok (.root root, directory)
  relative : ∃ directory, fs.roots.get? fs.defaultRoot = some directory ∧
    ∀ path : Path, path.isAbsolute = false →
      fs.resolveRoot path = .ok (path.toAbsolute fs.defaultRoot, directory)

section Built

variable (built : (build key config registered before).outcome = (.ok fs, graph))

include built

theorem roots_perm_of_build {roots : List Root} (resolved : config.resolvedRoots = .ok roots) :
    fs.roots.roots.Perm roots := by
  obtain ⟨first, others, resolved', rfl, -⟩ := build_eq_ok built
  cases resolved.symm.trans resolved'
  obtain ⟨-, distinct⟩ := Config.resolvedRoots_eq_ok_iff.mp resolved
  have listed := List.zipIdx_map_fst before.size (first :: others)
  have perm := RootTable.roots_ofList_perm (listed.symm ▸ distinct)
  rwa [listed] at perm

theorem get?_of_mem_roots {root : Root} (member : root ∈ fs.roots.roots) :
    ∃ directory, fs.roots.get? root = some directory := by
  obtain ⟨first, others, resolved, -, knows⟩ := knows_of_build built
  have listed := (roots_perm_of_build built resolved).mem_iff.mp member
  exact Option.isSome_iff_exists.mp ((knows root).mpr listed)

theorem rootNamed_of_build :
    ∀ root ∈ fs.roots.roots, ∃ name, config.pathStyle.rootNamed name = .ok root := by
  intro root member
  obtain ⟨first, others, resolved, -⟩ := knows_of_build built
  have listed := (roots_perm_of_build built resolved).mem_iff.mp member
  exact Config.exists_rootNamed_of_resolvedRoots resolved root listed

theorem hasRoot_of_build : ∀ root ∈ fs.roots.roots, config.pathStyle.HasRoot root := by
  intro root member
  obtain ⟨name, accepted⟩ := rootNamed_of_build built root member
  exact PathStyle.hasRoot_of_rootNamed accepted

theorem furnished_of_build : Furnished config fs graph := by
  obtain ⟨first, others, resolved, start, knows⟩ := knows_of_build built
  have perm := roots_perm_of_build built resolved
  obtain ⟨named, -⟩ := Config.resolvedRoots_eq_ok_iff.mp resolved
  have owned := hasRoot_of_build built
  have opened : fs.isOpen = true ∧ fs.config = config := by
    obtain ⟨_, _, -, rfl, -⟩ := build_eq_ok built
    exact ⟨rfl, rfl⟩
  have counted : fs.roots.roots.length = config.rootNames.length := by
    have paired := congrArg List.length named
    rw [List.length_map, List.length_map] at paired
    rw [perm.length_eq, paired]
  refine ⟨⟨first :: others, resolved, perm, ?size, ?first⟩, ?empty, ?apart, ?named, ?relative⟩
  case size => rwa [RootTable.roots, List.length_map] at counted
  case first => rw [start, List.head?_cons]
  case empty =>
    intro root member
    obtain ⟨directory, anchor⟩ := get?_of_mem_roots built member
    refine ⟨directory, anchor, ?_⟩
    rw [node_of_root built anchor]
    simp [Node.childNames?, Node.newDirectory]
  case apart =>
    intro root root' directory anchor anchor'
    exact root_unique built anchor anchor'
  case named =>
    intro name listed
    obtain ⟨root, known, accepted⟩ := Config.exists_root_of_map named listed
    have member := perm.mem_iff.mpr known
    obtain ⟨directory, anchor⟩ := get?_of_mem_roots built member
    have resolved : fs.resolveRoot (.root root) = .ok (.root root, directory) :=
      resolveRoot_eq_ok.mpr ⟨rfl, root, rfl, anchor⟩
    refine ⟨root, member, directory, accepted, anchor, ?_, resolved⟩
    rw [outcome_getPath opened.1, opened.2, Path.parse_of_rootNamed accepted owned]
  case relative =>
    have member : fs.defaultRoot ∈ fs.roots.roots := by
      rw [start]
      exact perm.mem_iff.mpr List.mem_cons_self
    obtain ⟨directory, anchor⟩ := get?_of_mem_roots built member
    refine ⟨directory, anchor, ?_⟩
    intro path relative
    have rootless : path.root? = none := by simpa [Path.isAbsolute] using relative
    have anchored := path.root?_toAbsolute fs.defaultRoot
    rw [rootless, Option.getD_none] at anchored
    exact resolveRoot_eq_ok.mpr ⟨rfl, fs.defaultRoot, anchored, anchor⟩

end Built

/-- Building a file system fails just as the validation of its configuration does. A configuration is
valid if it shows the basic view and its roots, if it lists any, are some and are different roots of the
style; what is built from it has all of them, where their names lead. -/
theorem build_agrees_with_validate (key : String) (config : Config) (registered : Bool)
    (before : Graph) :
    (build key config registered before).answer.map (fun _ => ()) = config.validate ∧
      (config.validate = .ok () ↔ config.Sound) ∧
      (∀ fs graph, (build key config registered before).outcome = (.ok fs, graph) →
        Furnished config fs graph) ∧
      ∀ document, Config.ofDocument document = .ok config →
        ∃ fs, (build key config registered before).answer = .ok fs := by
  refine ⟨answer_build_map key config registered before, Config.sound_iff_validate.symm, ?_, ?_⟩
  · intro fs graph built
    exact furnished_of_build built
  · intro document read
    have valid := Config.validate_of_ofDocument read
    obtain ⟨fs, graph, built⟩ := exists_build valid key registered before
    exact ⟨fs, congrArg Prod.fst built⟩

/-- Two drives in other spellings than their own get a tree each, and one drive in two spellings is
refused. -/
theorem build_agrees_with_validate_drives :
    let config := { Config.windows with roots := some ["d:/", "C:"] }
    let repeated := { Config.windows with roots := some ["d:/", "D:"] }
    (∃ fs graph, (build "k" config false {}).outcome = (.ok fs, graph) ∧
        fs.roots.roots = [.drive 'C', .drive 'D'] ∧ fs.defaultRoot = .drive 'D' ∧
        Furnished config fs graph ∧ config.Sound) ∧
      (build "k" repeated false {}).answer.map (fun _ => ()) =
        .error (.invalidArgument (.rootListedTwice "D:\\")) ∧
      ¬repeated.Sound := by
  intro config repeated
  obtain ⟨-, sound, furnished, -⟩ := build_agrees_with_validate "k" config false {}
  obtain ⟨answer, sound', -, -⟩ := build_agrees_with_validate "k" repeated false {}
  have valid : config.validate = .ok () := rfl
  have invalid : repeated.validate = .error (.invalidArgument (.rootListedTwice "D:\\")) := rfl
  refine ⟨⟨_, _, rfl, rfl, rfl, furnished _ _ rfl, sound.mp valid⟩, answer.trans invalid, ?_⟩
  intro accepted
  cases invalid.symm.trans (sound'.mpr accepted)

end FileSystem

end CoupledFs
