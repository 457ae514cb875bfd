import CoupledFs.Proofs.Forest
import CoupledFs.Proofs.PathRefinement
import CoupledFs.Proofs.Session

/-! File systems side by side in one graph. No node is in the trees of two of them, and whatever is done
in the trees of one leaves those of the others as they are. So all of them have models at once. -/

namespace CoupledFs

namespace FileSystem

variable {fs other : FileSystem} {graph before after : Graph} {model : PathModel}

/-- No node is in the trees of both file systems. -/
def Apart (fs other : FileSystem) (graph : Graph) : Prop :=
  ∀ ⦃root names root' names' node⦄, fs.nodeAt? graph root names = some node →
    other.nodeAt? graph root' names' ≠ some node

theorem Apart.symm (apart : fs.Apart other graph) : other.Apart fs graph :=
  fun _ _ _ _ _ found found' => apart found' found

/-- Whatever was done to a graph, it was not done in the trees of this file system. -/
structure Untouched (fs : FileSystem) (before after : Graph) : Prop where
  larger : before.size ≤ after.size
  places : ∀ root names, fs.nodeAt? after root names = fs.nodeAt? before root names
  nodes : ∀ ⦃root names node⦄, fs.nodeAt? before root names = some node →
    after.node node = before.node node

theorem untouched_at_time (fs : FileSystem) (graph : Graph) (now : Int) :
    fs.Untouched graph { graph with clock := now } where
  larger := Nat.le_refl _
  places := fun root names => fs.nodeAt?_at_time graph now root names
  nodes := fun _ _ _ _ => rfl

namespace Untouched

variable (untouched : fs.Untouched before after)

include untouched

theorem rooted (valid : fs.Rooted before) : fs.Rooted after where
  inside := by
    intro root names node found
    rw [untouched.places] at found
    exact Nat.lt_of_lt_of_le (valid.inside found) untouched.larger
  apart := by
    intro root names root' names' node found found'
    rw [untouched.places] at found found'
    exact valid.apart found found'
  anchored := by
    intro root start anchor
    have place : fs.nodeAt? before root [] = some start := by simp [nodeAt?, anchor, Graph.resolve]
    rw [untouched.nodes place]
    exact valid.anchored anchor
  distinct := by
    intro root names node found
    rw [untouched.places] at found
    rw [untouched.nodes found]
    exact valid.distinct found

theorem entryAt? (root : Root) (names : List String) :
    fs.entryAt? after root names = fs.entryAt? before root names := by
  unfold FileSystem.entryAt?
  rw [untouched.places]
  exact Option.map_congr fun _ found => congrArg Node.descriptor (untouched.nodes found)

theorem refines (refines : fs.Refines before model) : fs.Refines after model where
  opened := refines.opened
  readOnly := refines.readOnly
  rooted := untouched.rooted refines.rooted
  known := refines.known
  mirrors := fun root map there names => by
    rw [refines.mirrors there names, untouched.entryAt?]

theorem apart (untouched' : other.Untouched before after) (apart : fs.Apart other before) :
    fs.Apart other after := by
  intro root names root' names' node found
  rw [untouched.places] at found
  rw [untouched'.places]
  exact apart found

end Untouched

theorem untouched_addUnder (valid : other.Rooted graph)
    (outside : ∀ root names, other.nodeAt? graph root names ≠ some parent)
    (directory : (graph.node parent).isDirectory = true) (free : graph.child? parent name = none)
    {make : Int → Node} (childless : (make graph.clock).children = []) :
    other.Untouched graph (graph.addUnder parent name make) where
  larger := by simp
  places := by
    -- By induction from the root down: no directory on the way is the parent.
    intro root names
    induction names using List.reverseRecOn with
    | nil => rfl
    | append_singleton names last ih =>
      rw [nodeAt?_concat, nodeAt?_concat, ih]
      cases found : other.nodeAt? graph root names with
      | none => rfl
      | some node =>
        have elsewhere : ¬ (node = parent ∧ last = name) := by
          rintro ⟨rfl, -⟩
          exact outside root names found
        simp only [Option.bind_some, Graph.child?_addUnder directory free childless, if_neg elsewhere]
  nodes := by
    intro root names node found
    have differs : node ≠ parent := by
      rintro rfl
      exact outside root names found
    rw [Graph.node_addUnder directory, if_neg (Nat.ne_of_lt (valid.inside found)), if_neg differs]

section Served

variable (effect : fs.Effect request graph answer after) (separate : fs.Apart other graph)
  (valid : other.Rooted graph)

include effect separate valid

theorem Effect.untouched : other.Untouched graph after := by
  cases effect with
  | nothing => exact ⟨Nat.le_refl _, fun _ _ => rfl, fun _ _ _ _ => rfl⟩
  | growth about _ _ anchor _ route directory free =>
    have place : fs.nodeAt? graph _ _ = some _ :=
      Option.bind_eq_some_iff.mpr ⟨_, anchor, route.resolve⟩
    exact untouched_addUnder valid (fun _ _ => separate place) directory free
      (childless_of_intent about graph.clock)

/-- What one file system makes does not turn up in the trees of another. -/
theorem Effect.apart (own : fs.Rooted graph) : fs.Apart other after := by
  have untouched := effect.untouched separate valid
  cases effect with
  | nothing => exact separate
  | growth about _ _ anchor _ route directory free =>
    have place : fs.nodeAt? graph _ _ = some _ :=
      Option.bind_eq_some_iff.mpr ⟨_, anchor, route.resolve⟩
    intro root names root' names' node found
    rw [untouched.places]
    rcases place_of_addUnder own place directory free (childless_of_intent about graph.clock) found with
      ⟨rfl, -⟩ | ⟨-, old⟩
    · exact fun found' => Nat.lt_irrefl _ (valid.inside found')
    · exact separate old

end Served

section Built

variable {key : String} {config : Config} {registered : Bool}
  (built : (build key config registered before).outcome = (.ok fs, graph))
  (valid : other.Rooted before)

include built valid

theorem untouched_of_build : other.Untouched before graph where
  larger := size_of_build built
  places := by
    have links (id : NodeId) (name : String) : graph.child? id name = before.child? id name := by
      simp only [Graph.child?, Node.child?, children_of_build built]
    exact other.nodeAt?_congr links
  nodes := by
    intro root names node found
    rw [node_of_build built, if_neg fun new => Nat.not_lt_of_le new.1 (valid.inside found)]

theorem apart_of_build : fs.Apart other graph := by
  intro root names root' names' node found found'
  rw [(untouched_of_build built valid).places] at found'
  rw [nodeAt?_of_build built] at found
  split at found
  · exact Nat.not_lt_of_le (size_le_of_root built found) (valid.inside found')
  · cases found

end Built

end FileSystem

namespace Provider

variable {provider before after : Provider} {models : SystemId → PathModel} {id : SystemId}
  {fs : FileSystem}

/-- All file systems have models and share no nodes. -/
structure Models (provider : Provider) (models : SystemId → PathModel) : Prop where
  each : ∀ ⦃id fs⦄, provider.system? id = some fs → fs.Refines provider.graph (models id)
  apart : ∀ ⦃id fs id' fs'⦄, provider.system? id = some fs → provider.system? id' = some fs' →
    id ≠ id' → fs.Apart fs' provider.graph

theorem models_empty (models : SystemId → PathModel) : ({} : Provider).Models models where
  each := fun id fs there => by simp [system?] at there
  apart := fun id fs id' fs' there => by simp [system?] at there

theorem Models.atTime (modelled : provider.Models models) (now : Int) :
    (provider.atTime now).Models models where
  each := fun _ _ there => (modelled.each there).at_time now
  apart := fun _ fs _ fs' there there' differs =>
    (fs.untouched_at_time provider.graph now).apart (fs'.untouched_at_time provider.graph now)
      (modelled.apart there there' differs)

/-- Serving one file system has its model served and keeps the others. -/
theorem Models.serve (modelled : provider.Models models) (there : provider.system? id = some fs)
    (request : Request) :
    Models { provider with graph := (fs.serve request provider.graph).state }
      (Function.update models id
        ((models id).serve fs.config fs.defaultRoot request).2) := by
  have effect := fs.effect_of_serve request provider.graph
  have untouched {id' : SystemId} {fs' : FileSystem} (there' : provider.system? id' = some fs')
      (differs : id ≠ id') :
      fs'.Untouched provider.graph (fs.serve request provider.graph).state :=
    effect.untouched (modelled.apart there there' differs) (modelled.each there').rooted
  constructor
  · intro id' fs' there'
    by_cases same : id = id'
    · subst same
      cases there.symm.trans there'
      rw [Function.update_self]
      exact ((modelled.each there).serve request).refines
    · rw [Function.update_of_ne (Ne.symm same)]
      exact (untouched there' same).refines (modelled.each there')
  · have served {id' : SystemId} {fs' : FileSystem} (there' : provider.system? id' = some fs')
        (differs : id ≠ id') : fs.Apart fs' (fs.serve request provider.graph).state :=
      effect.apart (modelled.apart there there' differs) (modelled.each there').rooted
        (modelled.each there).rooted
    intro id₁ fs₁ id₂ fs₂ there₁ there₂ differs
    by_cases first : id = id₁
    · subst first
      cases there.symm.trans there₁
      exact served there₂ differs
    · by_cases second : id = id₂
      · subst second
        cases there.symm.trans there₂
        exact (served there₁ first).symm
      · exact (untouched there₁ first).apart (untouched there₂ second)
          (modelled.apart there₁ there₂ differs)

theorem Models.withSystem (modelled : provider.Models models) {key : String} {config : Config}
    {registered : Bool} {graph : Graph} {roots : List Root}
    (built : (FileSystem.build key config registered provider.graph).outcome = (.ok fs, graph))
    (named : config.resolvedRoots = .ok roots) :
    (provider.withSystem fs graph).Models
      (Function.update models provider.systems.size (.new config roots)) := by
  have rooted {id : SystemId} {old : FileSystem} (there : provider.system? id = some old) :
      old.Rooted provider.graph := (modelled.each there).rooted
  constructor
  · intro id found there
    rw [system?_withSystem] at there
    split at there
    · rename_i last
      subst last
      cases there
      rw [Function.update_self]
      exact FileSystem.refines_of_build built named
    · rename_i earlier
      rw [Function.update_of_ne earlier]
      exact (FileSystem.untouched_of_build built (rooted there)).refines (modelled.each there)
  · intro id₁ fs₁ id₂ fs₂ there₁ there₂ differs
    rw [system?_withSystem] at there₁ there₂
    split at there₁
    · cases there₁
      split at there₂
      · rename_i first second
        exact absurd (first.trans second.symm) differs
      · exact FileSystem.apart_of_build built (rooted there₂)
    · split at there₂
      · cases there₂
        exact (FileSystem.apart_of_build built (rooted there₁)).symm
      · exact (FileSystem.untouched_of_build built (rooted there₁)).apart
          (FileSystem.untouched_of_build built (rooted there₂)) (modelled.apart there₁ there₂ differs)

theorem Models.withShut (modelled : provider.Models models) (id : SystemId) :
    (provider.withShut id).Models
      (Function.update models id { models id with isOpen := false }) := by
  constructor
  · intro id' fs there
    rw [system?_withShut] at there
    split at there
    · rename_i same
      subst same
      obtain ⟨earlier, there', rfl⟩ := Option.map_eq_some_iff.mp there
      rw [Function.update_self]
      exact (modelled.each there').close
    · rename_i differs
      rw [Function.update_of_ne differs]
      exact modelled.each there
  · -- Closing does not touch the root table, on which alone the places depend.
    have trees {id' : SystemId} {fs : FileSystem} (there : (provider.withShut id).system? id' = some fs) :
        ∃ earlier, provider.system? id' = some earlier ∧ fs.nodeAt? = earlier.nodeAt? := by
      obtain ⟨earlier, there', rfl⟩ := system?_withShut_eq_some.mp there
      refine ⟨earlier, there', ?_⟩
      split <;> rfl
    intro id₁ fs₁ id₂ fs₂ there₁ there₂ differs
    obtain ⟨earlier₁, there₁, places₁⟩ := trees there₁
    obtain ⟨earlier₂, there₂, places₂⟩ := trees there₂
    unfold FileSystem.Apart
    rw [places₁, places₂]
    exact modelled.apart there₁ there₂ differs

theorem Models.congr (modelled : before.Models models) (graph : after.graph = before.graph)
    (systems : after.systems = before.systems) : after.Models models where
  each := fun id fs there => by
    rw [system?, systems] at there
    rw [graph]
    exact modelled.each there
  apart := fun id fs id' fs' there there' differs => by
    rw [system?, systems] at there there'
    rw [graph]
    exact modelled.apart there there' differs

/-- As long as nobody gives them other roots, file systems have models. -/
theorem Consequence.exists_models (consequence : Consequence before command after)
    (modelled : before.Models models)
    (rooted : ∀ id table, command ≠ .operate id (.setRoots table)) :
    ∃ models', after.Models models' := by
  cases consequence with
  | nothing => exact ⟨_, modelled⟩
  | served there request => exact ⟨_, modelled.serve there request⟩
  | rerooted id table => exact absurd rfl (rooted id table)
  | @shut id => exact ⟨_, modelled.withShut id⟩
  | @retired id fs => exact ⟨_, (modelled.withShut id).congr rfl rfl⟩
  | deregistered | dropped => exact ⟨_, modelled.congr rfl rfl⟩
  | detached built =>
    obtain ⟨_, _, named, -⟩ := FileSystem.build_eq_ok built
    exact ⟨_, modelled.withSystem built named⟩
  | registered _ built =>
    obtain ⟨_, _, named, -⟩ := FileSystem.build_eq_ok built
    exact ⟨_, (modelled.withSystem built named).congr rfl rfl⟩

theorem exists_models (steps : List (Int × Command))
    (rooted : ∀ step ∈ steps, ∀ id table, step.2 ≠ .operate id (.setRoots table)) :
    ∃ models, (({} : Provider).afterAll steps).Models models := by
  induction steps using List.reverseRecOn with
  | nil => exact ⟨fun _ => .new .unix [], models_empty _⟩
  | append_singleton steps step ih =>
    rw [afterAll_concat]
    obtain ⟨models, earlier⟩ := ih fun step member => rooted step (List.mem_append_left _ member)
    have last := rooted step (List.mem_append_right _ List.mem_cons_self)
    exact (consequence_of_obey _ step.2).exists_models (earlier.atTime step.1) last

end Provider

end CoupledFs
