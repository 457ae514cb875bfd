import CoupledFs.Proofs.Counting
import CoupledFs.Proofs.Frame

/-! Trees of directories only, told by where the directories are. -/

namespace CoupledFs.FileSystem

variable {fs : FileSystem} {graph : Graph} {root : Root} {places : List String → Prop} {path : Path}

/-- A tree in which there are directories in the given places, and nothing else. -/
structure DirectoryTree (fs : FileSystem) (graph : Graph) (root : Root)
    (places : List String → Prop) : Prop where
  rooted : fs.Rooted graph
  present : ∀ ⦃names⦄, places names → fs.isDirectoryAt graph root names = true
  absent : ∀ ⦃names⦄, ¬ places names → fs.nodeAt? graph root names = none

theorem isDirectoryAt_eq_true_iff : fs.isDirectoryAt graph root names = true ↔
    (fs.nodeAt? graph root names).map (fun node => (graph.node node).isDirectory) = some true := by
  rw [isDirectoryAt_iff, Option.map_eq_some_iff]

theorem isDirectoryAt_at_time (fs : FileSystem) (graph : Graph) (now : Int) (root : Root)
    (names : List String) :
    fs.isDirectoryAt { graph with clock := now } root names =
      fs.isDirectoryAt graph root names := by
  rw [isDirectoryAt, nodeAt?_at_time]
  rfl

theorem directoryTree_of_build {key : String} {config : Config} {registered : Bool} {before : Graph}
    (built : (build key config registered before).outcome = (.ok fs, graph))
    (anchor : fs.roots.get? root = some start) : fs.DirectoryTree graph root (· = []) where
  rooted := rooted_of_build built
  present := by
    rintro names rfl
    refine isDirectoryAt_iff.mpr ⟨start, ?_, (rooted_of_build built).anchored anchor⟩
    rw [nodeAt?_nil, anchor]
  absent := by
    intro names below
    rw [nodeAt?_of_build built, if_neg below]

theorem outcome_createDirectory
    (served : (fs.serve (.createDirectory path) graph).outcome =
      (answer.map fun _ => .done, after)) :
    (fs.createDirectory path graph).outcome = (answer, after) := by
  have mapped := Action.outcome_map (fun _ => Answer.done) (fs.createDirectory path) graph
  obtain ⟨answers, states⟩ := Prod.mk.inj (mapped.symm.trans served)
  refine Prod.ext ?_ states
  cases given : (fs.createDirectory path graph).answer <;> cases answer <;>
    simp_all [Reply.outcome, Except.map]

theorem outcome_createDirectory_of_readOnly (opened : fs.isOpen = true)
    (readOnly : fs.store.readOnly = true) (known : fs.roots.get? (fs.anchor path) = some start)
    (graph : Graph) : (fs.createDirectory path graph).outcome = (.error .readOnly, graph) := by
  have resolved : fs.resolveRoot path = .ok (path.toAbsolute fs.defaultRoot, start) :=
    resolveRoot_eq_ok.mpr ⟨rfl, fs.anchor path, path.root?_toAbsolute _, known⟩
  have planned : fs.plan (.createDirectory path) = .error .readOnly := by
    simp only [plan_of_open opened, intent, planIntent, planCreate, resolved, readOnly]
    rfl
  apply outcome_createDirectory
  rw [outcome_serve, planned, Plan.outcome_error]
  rfl

theorem outcome_createDirectory_of_free (opened : fs.isOpen = true)
    (writable : fs.store.readOnly = false) (segments : path.segments = front ++ [name])
    (place : fs.nodeAt? graph (fs.anchor path) front = some parent)
    (directory : (graph.node parent).isDirectory = true) (free : graph.child? parent name = none) :
    (fs.createDirectory path graph).outcome = (.ok (), graph.addUnder parent name
      (.newDirectory · fs.config.directoryMode fs.config.ownership)) := by
  obtain ⟨start, anchored, reached⟩ := Option.bind_eq_some_iff.mp place
  have rooted := path.root?_toAbsolute fs.defaultRoot
  have resolved : fs.resolveRoot path = .ok (path.toAbsolute fs.defaultRoot, start) :=
    resolveRoot_eq_ok.mpr ⟨rfl, fs.anchor path, rooted, anchored⟩
  rw [← path.segments_toAbsolute fs.defaultRoot] at segments
  obtain ⟨above, parented, -, same⟩ := Path.parent?_of_segments rooted segments
  rw [← same] at reached
  obtain ⟨passed, route⟩ := Route.of_resolve reached
  apply outcome_createDirectory
  exact outcome_serve_of_free opened writable rfl resolved
    (Path.lastSegment?_of_segments segments) parented route directory free

namespace DirectoryTree

theorem at_time (tree : fs.DirectoryTree graph root places) (now : Int) :
    fs.DirectoryTree { graph with clock := now } root places where
  rooted := tree.rooted.at_time now
  present := fun names there => by
    rw [isDirectoryAt_at_time]
    exact tree.present there
  absent := fun names missing => by
    rw [nodeAt?_at_time]
    exact tree.absent missing

theorem congr {places' : List String → Prop} (tree : fs.DirectoryTree graph root places)
    (same : ∀ names, places' names ↔ places names) : fs.DirectoryTree graph root places' where
  rooted := tree.rooted
  present := fun names there => tree.present ((same names).mp there)
  absent := fun names missing => tree.absent (mt (same names).mpr missing)

/-- A directory can be made below any other, and then is there with the rest. -/
theorem make (tree : fs.DirectoryTree graph (fs.anchor path) places) (opened : fs.isOpen = true)
    (writable : fs.store.readOnly = false) (segments : path.segments = front ++ [name])
    (above : places front) (free : ¬ places (front ++ [name])) :
    ∃ after, (fs.createDirectory path graph).outcome = (.ok (), after) ∧
      fs.DirectoryTree after (fs.anchor path)
        fun names => places names ∨ names = front ++ [name] := by
  obtain ⟨parent, place, directory⟩ := isDirectoryAt_iff.mp (tree.present above)
  have vacant : graph.child? parent name = none := by
    have missing := tree.absent free
    rwa [nodeAt?_concat, place] at missing
  refine ⟨_, outcome_createDirectory_of_free opened writable segments place directory vacant, ?_⟩
  generalize made : (Node.newDirectory · fs.config.directoryMode fs.config.ownership) = make
  have childless : (make graph.clock).children = [] := by rw [← made]; rfl
  have places_eq := nodeAt?_addUnder tree.rooted place directory vacant childless (fs.anchor path)
  have kinds := map_nodeAt?_addUnder tree.rooted place directory vacant childless
    Node.isDirectory_link (fs.anchor path)
  refine ⟨tree.rooted.addUnder place directory vacant childless, fun names there => ?_,
    fun names missing => ?_⟩
  · rw [isDirectoryAt_eq_true_iff, kinds]
    by_cases here : names = front ++ [name]
    · rw [if_pos ⟨rfl, here⟩, ← made]
      rfl
    · rw [if_neg fun same => here same.2, ← isDirectoryAt_eq_true_iff]
      exact tree.present (there.resolve_right here)
  · obtain ⟨old, elsewhere⟩ := not_or.mp missing
    rw [places_eq, if_neg fun same => elsewhere same.2]
    exact tree.absent old

theorem look (tree : fs.DirectoryTree graph (fs.anchor path) places) (opened : fs.isOpen = true)
    (there : places path.segments) :
    ∃ attributes, (fs.readBasic path graph).outcome = (.ok attributes, graph) := by
  obtain ⟨node, place, -⟩ := isDirectoryAt_iff.mp (tree.present there)
  exact ⟨_, outcome_readNode opened place _ _⟩

/-- As many directories are counted from the root on as there are places. -/
theorem count (tree : fs.DirectoryTree graph root places) (opened : fs.isOpen = true)
    {listed : List (List String)} (distinct : listed.Nodup)
    (exact : ∀ names, names ∈ listed ↔ places names) (top : places []) :
    (fs.countDirectories (.root root) graph).outcome = (.ok listed.length, graph) := by
  have top' : fs.isDirectoryAt graph (fs.anchor (.root root)) (Path.root root).segments = true :=
    tree.present top
  refine outcome_countDirectories opened tree.rooted top' distinct fun names => ?_
  rw [exact names]
  refine ⟨fun there => ⟨List.nil_prefix, tree.present there⟩, fun ⟨_, found⟩ => ?_⟩
  obtain ⟨node, place, -⟩ := isDirectoryAt_iff.mp found
  by_contra missing
  cases (tree.absent missing).symm.trans place

end DirectoryTree

end CoupledFs.FileSystem
