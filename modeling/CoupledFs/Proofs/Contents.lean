import CoupledFs.Proofs.Construction
import CoupledFs.Proofs.Neighbours

/-! What there is in the trees of a file system that has kept its roots: the directories that it was
built with, and what it was asked to make. Whatever holds of these holds of all there is. -/

namespace CoupledFs

namespace FileSystem

variable {fs other : FileSystem} {graph before after : Graph} {config : Config} {command : Command}
  {fits : List String → Descriptor → Prop}

/-- The file system is the one that a command built, but that it may have been closed since. -/
def BuiltBy (fs : FileSystem) (command : Command) : Prop :=
  ∃ key registered before after built,
    (command = .newFileSystem key fs.config ∨ command = .newDetached key fs.config) ∧
      (build key fs.config registered before).outcome = (.ok built, after) ∧
      fs = { built with lifecycle := fs.lifecycle }

theorem config_of_build {key : String} {registered : Bool}
    (built : (build key config registered before).outcome = (.ok fs, graph)) :
    fs.config = config := by
  obtain ⟨_, _, -, rfl, -⟩ := build_eq_ok built
  rfl

theorem builtBy_newFileSystem {key : String}
    (built : (build key config true before).outcome = (.ok fs, graph)) :
    fs.BuiltBy (.newFileSystem key config) := by
  obtain rfl := config_of_build built
  exact ⟨key, true, before, graph, fs, .inl rfl, built, rfl⟩

theorem builtBy_newDetached {key : String}
    (built : (build key config false before).outcome = (.ok fs, graph)) :
    fs.BuiltBy (.newDetached key config) := by
  obtain rfl := config_of_build built
  exact ⟨key, false, before, graph, fs, .inr rfl, built, rfl⟩

theorem BuiltBy.shut (builtBy : fs.BuiltBy command) (lifecycle : Lifecycle) :
    { fs with lifecycle }.BuiltBy command := by
  obtain ⟨key, registered, before, after, built, given, made, same⟩ := builtBy
  refine ⟨key, registered, before, after, built, given, made, ?_⟩
  rw [same]

theorem BuiltBy.valid (builtBy : fs.BuiltBy command) : fs.config.validate = .ok () := by
  obtain ⟨key, registered, before, after, built, -, made, -⟩ := builtBy
  have validated := answer_build_map key fs.config registered before
  change (build key fs.config registered before).outcome.1.map _ = _ at validated
  rw [made] at validated
  exact validated.symm

theorem BuiltBy.rootNamed (builtBy : fs.BuiltBy command) :
    ∀ root ∈ fs.roots.roots, ∃ name, fs.config.pathStyle.rootNamed name = .ok root := by
  obtain ⟨key, registered, before, after, built, -, made, same⟩ := builtBy
  have roots : fs.roots = built.roots := by rw [same]
  rw [roots]
  exact rootNamed_of_build made

/-- Everything in the trees of the file system, the roots included, fits. -/
def AllEntries (fs : FileSystem) (graph : Graph) (fits : List String → Descriptor → Prop) : Prop :=
  ∀ ⦃root names entry⦄, fs.entryAt? graph root names = some entry → fits names entry

theorem AllEntries.of_found (all : fs.AllEntries graph fits) {path : Path} {node : NodeId}
    (found : fs.find? graph path = some node) :
    fits path.segments (graph.node node).descriptor := by
  rw [find?_eq_nodeAt?] at found
  exact all (Option.map_eq_some_iff.mpr ⟨node, found, rfl⟩)

theorem allEntries_of_build {key : String} {registered : Bool}
    (built : (build key config registered before).outcome = (.ok fs, graph))
    (root : fits [] ⟨.directory, 0, config.directoryMode, config.ownership⟩) :
    fs.AllEntries graph fits := by
  intro anchor names entry found
  rw [entryAt?, nodeAt?_of_build built] at found
  split at found
  · rename_i bare
    obtain ⟨start, anchored, same⟩ := Option.map_eq_some_iff.mp found
    rw [node_of_root built anchored] at same
    rw [bare, ← same]
    exact root
  · cases found

theorem Untouched.allEntries (untouched : fs.Untouched before after)
    (all : fs.AllEntries before fits) : fs.AllEntries after fits := by
  intro root names entry found
  rw [untouched.entryAt?] at found
  exact all found

theorem Effect.allEntries (effect : fs.Effect request graph answer after) (rooted : fs.Rooted graph)
    (all : fs.AllEntries graph fits)
    (made : ∀ path make, fs.intent request = .make path make →
      ∀ now, fits path.segments (make now).descriptor) : fs.AllEntries after fits := by
  cases effect with
  | nothing => exact all
  | growth about absolute_eq _ anchor segments route directory free =>
    intro root names entry found
    rw [entryAt?_addUnder rooted (nodeAt?_of_route anchor route) directory free
      (childless_of_intent about graph.clock)] at found
    split at found
    · rename_i here
      cases found
      rw [here.2, ← segments, absolute_eq, Path.segments_toAbsolute]
      exact made _ _ about graph.clock
    · exact all found

end FileSystem

namespace Provider

variable {before after : Provider} {command : Command} {id : SystemId} {fs : FileSystem}
  {config : Config} {fits : List String → Descriptor → Prop}

/-- Unless it is given other roots, a file system is what it was before a command, but that it may have
been closed, or it is what the command built. -/
theorem Consequence.builtBy_or_earlier (consequence : Consequence before command after)
    (rooted : ∀ id table, command ≠ .operate id (.setRoots table))
    (there : after.system? id = some fs) :
    fs.BuiltBy command ∨ ∃ earlier lifecycle, before.system? id = some earlier ∧
      fs = { earlier with lifecycle } := by
  have kept (there : before.system? id = some fs) : ∃ earlier lifecycle,
      before.system? id = some earlier ∧ fs = { earlier with lifecycle } :=
    ⟨fs, fs.lifecycle, there, rfl⟩
  have shut {closed : SystemId} (there : (before.withShut closed).system? id = some fs) :
      ∃ earlier lifecycle, before.system? id = some earlier ∧ fs = { earlier with lifecycle } := by
    obtain ⟨earlier, there, same⟩ := system?_withShut_eq_some.mp there
    split at same
    · exact ⟨earlier, ⟨false⟩, there, same⟩
    · exact ⟨earlier, earlier.lifecycle, there, same⟩
  have joined {added : FileSystem} (graph : Graph) (new : added.BuiltBy command)
      (there : (before.withSystem added graph).system? id = some fs) :
      fs.BuiltBy command ∨ ∃ earlier lifecycle, before.system? id = some earlier ∧
        fs = { earlier with lifecycle } := by
    rw [system?_withSystem] at there
    split at there
    · cases there
      exact .inl new
    · exact .inr (kept there)
  cases consequence with
  | nothing | served | deregistered | dropped => exact .inr (kept there)
  | rerooted id table => exact absurd rfl (rooted id table)
  | shut | retired => exact .inr (shut there)
  | @detached _ _ _ graph built => exact joined graph (FileSystem.builtBy_newDetached built) there
  | @registered _ _ _ graph _ built =>
    exact joined graph (FileSystem.builtBy_newFileSystem built) there

/-- What holds of the roots that a file system gets and of whatever it is asked to make goes on holding
of all that is in its trees, whatever is asked of others. -/
theorem Consequence.allEntries {models : SystemId → PathModel}
    (consequence : Consequence before command after) (modelled : before.Models models)
    (rooted : ∀ id table, command ≠ .operate id (.setRoots table))
    (root : fits [] ⟨.directory, 0, config.directoryMode, config.ownership⟩)
    (made : ∀ request, command = .operate id (.request request) → ∀ fs : FileSystem,
      fs.config = config → ∀ path make, fs.intent request = .make path make →
        ∀ now, fits path.segments (make now).descriptor)
    (all : ∀ fs, before.system? id = some fs → fs.config = config →
      fs.AllEntries before.graph fits) :
    ∀ fs, after.system? id = some fs → fs.config = config → fs.AllEntries after.graph fits := by
  intro fs there same
  have shut {closed : SystemId} (there : (before.withShut closed).system? id = some fs) :
      fs.AllEntries before.graph fits := by
    obtain ⟨earlier, there', closing⟩ := system?_withShut_eq_some.mp there
    split at closing
    · rw [closing] at same ⊢
      exact all earlier there' same
    · rw [closing] at same ⊢
      exact all earlier there' same
  have joined {key : String} {given : Config} {registered : Bool} {added : FileSystem} {graph : Graph}
      (built : (FileSystem.build key given registered before.graph).outcome = (.ok added, graph))
      (there : (before.withSystem added graph).system? id = some fs) :
      fs.AllEntries graph fits := by
    rw [system?_withSystem] at there
    split at there
    · cases there
      rw [FileSystem.config_of_build built] at same
      exact FileSystem.allEntries_of_build built (same ▸ root)
    · exact (FileSystem.untouched_of_build built (modelled.each there).rooted).allEntries
        (all fs there same)
  cases consequence with
  | nothing | deregistered | dropped => exact all fs there same
  | @served asked server there' request =>
    have effect := server.effect_of_serve request before.graph
    by_cases here : asked = id
    · subst asked
      cases there.symm.trans there'
      exact effect.allEntries (modelled.each there').rooted (all _ there' same)
        (made request rfl _ same)
    · have untouched : fs.Untouched before.graph (server.serve request before.graph).state :=
        effect.untouched (modelled.apart there' there here) (modelled.each there).rooted
      exact untouched.allEntries (all fs there same)
  | rerooted id table => exact absurd rfl (rooted id table)
  | shut | retired => exact shut there
  | detached built => exact joined built there
  | registered _ built => exact joined built there

section Session

variable (steps : List (Int × Command))
  (rooted : ∀ step ∈ steps, ∀ id table, step.2 ≠ .operate id (.setRoots table))

include rooted

theorem exists_builtBy (there : (({} : Provider).afterAll steps).system? id = some fs) :
    ∃ step ∈ steps, fs.BuiltBy step.2 := by
  induction steps using List.reverseRecOn generalizing fs with
  | nil => simp [afterAll, system?] at there
  | append_singleton steps step ih =>
    rw [afterAll_concat] at there
    have consequence := consequence_of_obey ((({} : Provider).afterAll steps).atTime step.1) step.2
    have last := rooted step (List.mem_append_right _ List.mem_cons_self)
    rcases consequence.builtBy_or_earlier last there with
      built | ⟨earlier, lifecycle, there', rfl⟩
    · exact ⟨step, List.mem_append_right _ List.mem_cons_self, built⟩
    · obtain ⟨first, member, built⟩ :=
        ih (fun step member => rooted step (List.mem_append_left _ member)) there'
      exact ⟨first, List.mem_append_left _ member, built.shut lifecycle⟩

/-- What holds of the roots that a file system is built with, and of all that a session asks it to make,
holds of everything in its trees after the session. -/
theorem allEntries_afterAll (fits : List String → Descriptor → Prop)
    (root : fits [] ⟨.directory, 0, config.directoryMode, config.ownership⟩)
    (made : ∀ step ∈ steps, ∀ request, step.2 = .operate id (.request request) →
      ∀ fs : FileSystem, fs.config = config → ∀ path make, fs.intent request = .make path make →
        ∀ now, fits path.segments (make now).descriptor) :
    ∀ fs, (({} : Provider).afterAll steps).system? id = some fs → fs.config = config →
      fs.AllEntries (({} : Provider).afterAll steps).graph fits := by
  induction steps using List.reverseRecOn with
  | nil =>
    intro fs there
    simp [afterAll, system?] at there
  | append_singleton steps step ih =>
    rw [afterAll_concat]
    have before : ∀ step ∈ steps, ∀ id table, step.2 ≠ .operate id (.setRoots table) :=
      fun step member => rooted step (List.mem_append_left _ member)
    have here : step ∈ steps ++ [step] := List.mem_append_right _ List.mem_cons_self
    obtain ⟨models, modelled⟩ := exists_models steps before
    have all := ih before fun step member => made step (List.mem_append_left _ member)
    apply (consequence_of_obey _ step.2).allEntries (modelled.atTime step.1) (rooted step here) root
      (made step here)
    intro fs there same
    exact (fs.untouched_at_time _ step.1).allEntries (all fs there same)

end Session

theorem session_of_making {key name : String} {request : Request} {path absolute parent : Path}
    {make : Int → Node} {graph : Graph} {start target : NodeId} {above : List NodeId}
    (built : (FileSystem.build key config true { clock := 1 }).outcome = (.ok fs, graph))
    (opened : fs.isOpen = true) (writable : fs.store.readOnly = false)
    (about : fs.intent request = .make path make)
    (resolved : fs.resolveRoot path = .ok (absolute, start))
    (named : absolute.lastSegment? = some name) (parented : absolute.parent? = some parent)
    (route : Route { graph with clock := 2 } start parent.segments above target)
    (directory : (graph.node target).isDirectory = true)
    (free : graph.child? target name = none) :
    let steps : List (Int × Command) :=
      [(1, .newFileSystem key config), (2, .operate 0 (.request request))]
    let provider := ({} : Provider).afterAll steps
    (∀ step ∈ steps, ∀ id table, step.2 ≠ .operate id (.setRoots table)) ∧
      provider.system? 0 = some fs ∧
      provider.graph = Graph.addUnder { graph with clock := 2 } target name make := by
  intro steps provider
  have begun : ({} : Provider).after (1, .newFileSystem key config) =
      (({} : Provider).withSystem fs graph).withKey key 0 := after_newFileSystem rfl built
  have there : (({} : Provider).after (1, .newFileSystem key config)).system? 0 = some fs := by
    rw [begun]
    rfl
  have served : (fs.serve request { graph with clock := 2 }).state = _ :=
    congrArg Prod.snd (FileSystem.outcome_serve_of_free opened writable about resolved named parented
      route directory free)
  have last : provider = _ := after_request there 2 request
  refine ⟨by simp [steps], ?_, ?_⟩
  · rw [last]
    exact there
  · rw [last, begun]
    exact served

end Provider

end CoupledFs
