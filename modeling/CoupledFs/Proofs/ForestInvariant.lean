import CoupledFs.Proofs.Forest
import CoupledFs.Proofs.Session

/-! Whatever is asked of file systems, their nodes stay a forest, as long as nobody gives them other
roots. -/

namespace CoupledFs

namespace FileSystem

variable {fs : FileSystem} {graph : Graph}

theorem Effect.arboreal (effect : fs.Effect request graph answer after)
    (arboreal : graph.Arboreal) : after.Arboreal := by
  cases effect with
  | nothing => exact arboreal
  | growth about _ _ _ _ _ directory free =>
    exact arboreal.addUnder directory free (childless_of_intent about graph.clock)

theorem Effect.planted {other : FileSystem} (effect : fs.Effect request graph answer after)
    (planted : other.Planted graph) : other.Planted after := by
  cases effect with
  | nothing => exact planted
  | growth about _ _ _ _ _ directory free =>
    exact planted.addUnder directory free (childless_of_intent about graph.clock)

theorem Planted.shut (planted : fs.Planted graph) :
    { fs with lifecycle := ⟨false⟩ }.Planted graph :=
  ⟨planted.directory, planted.separate, planted.topmost⟩

end FileSystem

namespace Provider

variable {before after : Provider}

/-- Nothing that can be asked links a node twice, whatever roots file systems are given. -/
theorem Consequence.arboreal (consequence : Consequence before command after)
    (arboreal : before.graph.Arboreal) : after.graph.Arboreal := by
  cases consequence with
  | @served id fs there request =>
    exact (fs.effect_of_serve request before.graph).arboreal arboreal
  | detached built | registered _ built => exact FileSystem.arboreal_of_build built arboreal
  | nothing | rerooted | shut | retired | deregistered | dropped => exact arboreal

theorem arboreal_afterAll (steps : List (Int × Command)) :
    (({} : Provider).afterAll steps).graph.Arboreal := by
  induction steps using List.reverseRecOn with
  | nil => exact Graph.arboreal_empty
  | append_singleton steps step ih =>
    rw [afterAll_concat]
    exact (consequence_of_obey _ step.2).arboreal (ih.at_time step.1)

/-- Nodes that make up a forest, with the roots of all file systems at the top. -/
structure Forested (provider : Provider) : Prop where
  arboreal : provider.graph.Arboreal
  planted : ∀ ⦃id fs⦄, provider.system? id = some fs → fs.Planted provider.graph

theorem forested_empty : ({} : Provider).Forested where
  arboreal := Graph.arboreal_empty
  planted := fun id fs there => by simp [system?] at there

theorem Forested.atTime (forested : before.Forested) (now : Int) : (before.atTime now).Forested where
  arboreal := forested.arboreal.at_time now
  planted := fun _ _ there =>
    ⟨(forested.planted there).directory, (forested.planted there).separate,
      (forested.planted there).topmost⟩

theorem Forested.withSystem (forested : before.Forested) {key : String} {config : Config}
    {registered : Bool} {fs : FileSystem} {graph : Graph}
    (built : (FileSystem.build key config registered before.graph).outcome = (.ok fs, graph)) :
    (before.withSystem fs graph).Forested where
  arboreal := FileSystem.arboreal_of_build built forested.arboreal
  planted := by
    intro id other there
    rw [system?_withSystem] at there
    split at there
    · cases there
      exact FileSystem.planted_of_build built forested.arboreal.treelike
    · exact (forested.planted there).of_build built

theorem Forested.withShut (forested : before.Forested) (id : SystemId) :
    (before.withShut id).Forested where
  arboreal := forested.arboreal
  planted := by
    intro other fs there
    rw [system?_withShut] at there
    split at there
    · obtain ⟨earlier, there', rfl⟩ := Option.map_eq_some_iff.mp there
      exact (forested.planted there').shut
    · exact forested.planted there

/-- Only giving a file system other roots can put them elsewhere than at the top. -/
theorem Consequence.forested (consequence : Consequence before command after)
    (forested : before.Forested) (rooted : ∀ id table, command ≠ .operate id (.setRoots table)) :
    after.Forested := by
  cases consequence with
  | nothing => exact forested
  | @served id fs there request =>
    have effect := fs.effect_of_serve request before.graph
    exact ⟨effect.arboreal forested.arboreal, fun _ _ there' =>
      effect.planted (forested.planted there')⟩
  | rerooted id table => exact absurd rfl (rooted id table)
  | @shut id => exact forested.withShut id
  | @retired id =>
    have shut := forested.withShut id
    exact ⟨shut.arboreal, shut.planted⟩
  | deregistered | dropped => exact ⟨forested.arboreal, forested.planted⟩
  | detached built => exact forested.withSystem built
  | registered _ built =>
    have more := forested.withSystem built
    exact ⟨more.arboreal, more.planted⟩

theorem forested_afterAll (steps : List (Int × Command))
    (rooted : ∀ step ∈ steps, ∀ id table, step.2 ≠ .operate id (.setRoots table)) :
    (({} : Provider).afterAll steps).Forested := by
  induction steps using List.reverseRecOn with
  | nil => exact forested_empty
  | append_singleton steps step ih =>
    rw [afterAll_concat]
    have earlier := ih fun step member => rooted step (List.mem_append_left _ member)
    have last := rooted step (List.mem_append_right _ List.mem_cons_self)
    exact (consequence_of_obey _ step.2).forested (earlier.atTime step.1) last

/-- However file systems are built, asked and closed, the nodes of each are a forest, in which two
absolute paths lead to one node if and only if they have the same root and the same names. -/
theorem forest_of_session (steps : List (Int × Command))
    (rooted : ∀ step ∈ steps, ∀ id table, step.2 ≠ .operate id (.setRoots table))
    {id : SystemId} {fs : FileSystem}
    (there : (({} : Provider).afterAll steps).system? id = some fs) :
    fs.Forest (({} : Provider).afterAll steps).graph ∧
      ∀ path other node node', path.isAbsolute = true → other.isAbsolute = true →
        fs.find? (({} : Provider).afterAll steps).graph path = some node →
        fs.find? (({} : Provider).afterAll steps).graph other = some node' →
        (node = node' ↔ path.root? = other.root? ∧ path.segments = other.segments) := by
  have forested := forested_afterAll steps rooted
  have forest := (forested.planted there).forest forested.arboreal
  refine ⟨forest, ?_⟩
  intro path other node node' absolute absolute' found found'
  obtain ⟨root, same⟩ := Option.isSome_iff_exists.mp absolute
  obtain ⟨root', same'⟩ := Option.isSome_iff_exists.mp absolute'
  rw [forest.find?_eq_iff found found', FileSystem.anchor, FileSystem.anchor, same, same']
  simp

/-- A directory in a new file system is another node than the root. -/
theorem forest_of_session_with_directory :
    let top : Path := .root .slash
    let path : Path := .element ⟨some .slash, ["a"], '/', by simp⟩
    let steps : List (Int × Command) :=
      [(1, .newFileSystem "key" .unix), (2, .operate 0 (.request (.createDirectory path)))]
    let provider := ({} : Provider).afterAll steps
    (∀ step ∈ steps, ∀ id table, step.2 ≠ .operate id (.setRoots table)) ∧
      ∃ fs, provider.system? 0 = some fs ∧ fs.Forest provider.graph ∧
        fs.find? provider.graph top = some 0 ∧ fs.find? provider.graph path = some 1 ∧
        ((0 : NodeId) = 1 ↔ top.root? = path.root? ∧ top.segments = path.segments) := by
  intro top path steps provider
  let fs : FileSystem :=
    ⟨.unix, ⟨"memfs", "key", false⟩, {}, ⟨[(.slash, 0)]⟩, .slash, ⟨["root"], ["root"]⟩, true⟩
  let start : Graph := ⟨#[.newDirectory 1 0o755 (some ⟨"root", "root"⟩)], 2⟩
  let begun : Provider := ⟨start, #[fs], [("key", 0)], true⟩
  have rooted : ∀ step ∈ steps, ∀ id table, step.2 ≠ .operate id (.setRoots table) := by
    simp [steps]
  have served : (fs.serve (.createDirectory path) start).outcome = (.ok .done,
      start.addUnder 0 "a" (.newDirectory · 0o755 (some ⟨"root", "root"⟩))) :=
    FileSystem.outcome_serve_of_free rfl rfl rfl rfl rfl rfl (.here 0) rfl rfl
  have last : provider = (obey (.operate 0 (.request (.createDirectory path))) begun).state := rfl
  have present : begun.system? 0 = some fs := rfl
  have made := congrArg Prod.snd (outcome_operate_request present (.createDirectory path))
  have graph : provider.graph =
      start.addUnder 0 "a" (.newDirectory · 0o755 (some ⟨"root", "root"⟩)) := by
    rw [last]
    exact (congrArg Provider.graph made).trans (congrArg Prod.snd served)
  have there : provider.system? 0 = some fs := by
    rw [last]
    exact congrArg (·.system? 0) made
  have found : fs.find? provider.graph top = some 0 := by
    rw [graph]
    rfl
  have found' : fs.find? provider.graph path = some 1 := by
    rw [graph]
    rfl
  obtain ⟨forest, places⟩ := forest_of_session steps rooted there
  exact ⟨rooted, fs, there, forest, found, found', places top path 0 1 rfl rfl found found'⟩

end Provider

end CoupledFs
