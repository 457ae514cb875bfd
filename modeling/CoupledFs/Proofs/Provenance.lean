import CoupledFs.Proofs.RootNames
import CoupledFs.Proofs.Session

/-! Where the file systems of a session come from: each was built from a configuration, and nothing can
have become of it since but that it was given other roots or was closed. -/

namespace CoupledFs

/-- A file system that was built, and that may have been given other roots and been closed since. -/
inductive FileSystem.Genuine : FileSystem → Prop where
  | built {key : String} {config : Config} {registered : Bool} {before graph : Graph}
      {fs : FileSystem} (built : (build key config registered before).outcome = (.ok fs, graph)) :
      Genuine fs
  | rerooted {fs : FileSystem} (genuine : Genuine fs) (table : RootTable) :
      Genuine (fs.withRoots table)
  | shut {fs : FileSystem} (genuine : Genuine fs) : Genuine { fs with lifecycle := ⟨false⟩ }

/-- Relative paths start at a root of the file system's style, whichever roots there are. -/
theorem FileSystem.Genuine.hasRoot_defaultRoot {fs : FileSystem} (genuine : fs.Genuine) :
    fs.config.pathStyle.HasRoot fs.defaultRoot := by
  induction genuine with
  | built built =>
    obtain ⟨first, others, resolved, rfl, -⟩ := build_eq_ok built
    exact Config.hasRoot_of_resolvedRoots resolved first List.mem_cons_self
  | rerooted _ _ ih => exact ih
  | shut _ ih => exact ih

namespace Provider

variable {before after : Provider}

def AllGenuine (provider : Provider) : Prop :=
  ∀ ⦃id fs⦄, provider.system? id = some fs → fs.Genuine

theorem AllGenuine.withSystem (genuine : before.AllGenuine) {fs : FileSystem} (added : fs.Genuine)
    (graph : Graph) : (before.withSystem fs graph).AllGenuine := by
  intro id found there
  rw [system?_withSystem] at there
  split at there
  · cases there
    exact added
  · exact genuine there

theorem AllGenuine.withRoots (genuine : before.AllGenuine) (id : SystemId) (table : RootTable) :
    (before.withRoots id table).AllGenuine := by
  intro other fs there
  rw [system?_withRoots] at there
  split at there
  · obtain ⟨old, there', rfl⟩ := Option.map_eq_some_iff.mp there
    exact (genuine there').rerooted table
  · exact genuine there

theorem AllGenuine.withShut (genuine : before.AllGenuine) (id : SystemId) :
    (before.withShut id).AllGenuine := by
  intro other fs there
  rw [system?_withShut] at there
  split at there
  · obtain ⟨old, there', rfl⟩ := Option.map_eq_some_iff.mp there
    exact (genuine there').shut
  · exact genuine there

theorem Consequence.allGenuine (consequence : Consequence before command after)
    (genuine : before.AllGenuine) : after.AllGenuine := by
  cases consequence with
  | nothing | served | deregistered | dropped => exact genuine
  | rerooted id table => exact genuine.withRoots id table
  | @shut id => exact genuine.withShut id
  | @retired id => exact genuine.withShut id
  | @detached _ _ _ graph built => exact genuine.withSystem (.built built) graph
  | @registered _ _ _ graph _ built => exact genuine.withSystem (.built built) graph

theorem allGenuine_afterAll (steps : List (Int × Command)) :
    (({} : Provider).afterAll steps).AllGenuine := by
  induction steps using List.reverseRecOn with
  | nil =>
    intro id fs there
    simp [afterAll, system?] at there
  | append_singleton steps step ih =>
    rw [afterAll_concat]
    exact (consequence_of_obey _ step.2).allGenuine ih

end Provider

end CoupledFs
