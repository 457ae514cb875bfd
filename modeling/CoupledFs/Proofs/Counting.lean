import CoupledFs.FileSystem.Tree
import CoupledFs.Proofs.Forest
import CoupledFs.Proofs.Mirror
import Mathlib

/-! Counting directories through requests. What is counted is listed, each directory once, by the
names that lead down to it. -/

namespace CoupledFs

namespace Path

@[simp]
theorem root?_join (path : Path) (name : String) : (path.join name).root? = path.root? :=
  rfl

@[simp]
theorem segments_join (path : Path) (name : String) :
    (path.join name).segments = path.segments ++ [name] :=
  rfl

end Path

theorem Action.outcome_foldlM {σ β : Type} {step : Nat → β → Action σ Nat} {size : β → Nat}
    {items : List β} {state : σ}
    (steps : ∀ item ∈ items, ∀ count,
      (step count item state).outcome = (.ok (count + size item), state)) (start : Nat) :
    (items.foldlM step start state).outcome = (.ok (start + (items.map size).sum), state) := by
  induction items generalizing start with
  | nil => rfl
  | cons item items ih =>
    rw [List.foldlM_cons, Action.outcome_bind, steps item List.mem_cons_self,
      List.map_cons, List.sum_cons, ← Nat.add_assoc]
    exact ih (fun other member => steps other (List.mem_cons_of_mem _ member)) _

namespace Graph

variable {graph : Graph}

/-- The names in a directory, in order; there are none in any other node. -/
def namesIn (graph : Graph) (id : NodeId) : List String :=
  (graph.node id).childNames?.getD []

def directory? (graph : Graph) (id : NodeId) (name : String) : Option NodeId :=
  (graph.child? id name).filter fun child => (graph.node child).isDirectory

/-- The names that lead from a directory to itself and to the directories below it, as far down as
`depth` levels. -/
def directoriesWithin (graph : Graph) : Nat → NodeId → List (List String)
  | 0, _ => [[]]
  | depth + 1, id => [] :: (graph.namesIn id).flatMap fun name =>
    (graph.directory? id name).toList.flatMap fun child =>
      (graph.directoriesWithin depth child).map (name :: ·)

theorem namesIn_perm (graph : Graph) (id : NodeId) :
    (graph.namesIn id).Perm ((graph.node id).children.map Prod.fst) := by
  unfold namesIn Node.childNames? Node.children
  cases (graph.node id).content with
  | directory children => exact List.mergeSort_perm _ _
  | file | symlink => exact .refl _

theorem mem_namesIn {id : NodeId} :
    name ∈ graph.namesIn id ↔ ∃ child, graph.child? id name = some child := by
  rw [(graph.namesIn_perm id).mem_iff, ← Option.isSome_iff_exists, ← Option.ne_none_iff_isSome,
    child?, ne_eq, Node.child?_eq_none_iff, not_not]

theorem directory?_eq_some_iff {id : NodeId} : graph.directory? id name = some child ↔
    graph.child? id name = some child ∧ (graph.node child).isDirectory = true := by
  simp [directory?, Option.filter_eq_some_iff]

theorem isDirectory_of_resolve {id node : NodeId} (reached : graph.resolve id names = some node)
    (directory : (graph.node node).isDirectory = true) :
    (graph.node id).isDirectory = true := by
  cases names with
  | nil =>
    cases reached
    exact directory
  | cons name names =>
    obtain ⟨child, linked, -⟩ := Option.bind_eq_some_iff.mp reached
    exact isDirectory_of_child? linked

theorem cons_mem_directoriesWithin_iff {id : NodeId} :
    name :: names ∈ graph.directoriesWithin (depth + 1) id ↔ ∃ child,
      graph.directory? id name = some child ∧ names ∈ graph.directoriesWithin depth child := by
  simp only [directoriesWithin, List.mem_cons, reduceCtorEq, false_or, List.mem_flatMap,
    Option.mem_toList, List.mem_map, List.cons.injEq]
  constructor
  · rintro ⟨other, -, child, found, rest, listed, rfl, rfl⟩
    exact ⟨child, found, listed⟩
  · rintro ⟨child, found, listed⟩
    have linked := (directory?_eq_some_iff.mp found).1
    exact ⟨name, mem_namesIn.mpr ⟨child, linked⟩, child, found, names, listed, rfl, rfl⟩

theorem mem_directoriesWithin_iff {id : NodeId} (directory : (graph.node id).isDirectory = true) :
    names ∈ graph.directoriesWithin depth id ↔ names.length ≤ depth ∧
      ∃ node, graph.resolve id names = some node ∧ (graph.node node).isDirectory = true := by
  induction names generalizing depth id with
  | nil => cases depth <;> simp [directoriesWithin, resolve, directory]
  | cons name names ih =>
    cases depth with
    | zero => simp [directoriesWithin]
    | succ depth =>
      rw [cons_mem_directoriesWithin_iff]
      constructor
      · rintro ⟨child, found, listed⟩
        obtain ⟨linked, directory'⟩ := directory?_eq_some_iff.mp found
        obtain ⟨short, node, reached, last⟩ := (ih directory').mp listed
        refine ⟨Nat.succ_le_succ short, node, ?_, last⟩
        rw [resolve, linked, Option.bind_some, reached]
      · rintro ⟨short, node, reached, last⟩
        obtain ⟨child, linked, reached⟩ := Option.bind_eq_some_iff.mp reached
        have directory' := isDirectory_of_resolve reached last
        refine ⟨child, directory?_eq_some_iff.mpr ⟨linked, directory'⟩, ?_⟩
        exact (ih directory').mpr ⟨Nat.le_of_succ_le_succ short, node, reached, last⟩

theorem nodup_directoriesWithin {id : NodeId}
    (distinct : ∀ names node, graph.resolve id names = some node →
      ((graph.node node).children.map Prod.fst).Nodup) (depth : Nat) :
    (graph.directoriesWithin depth id).Nodup := by
  induction depth generalizing id with
  | zero => exact List.nodup_singleton _
  | succ depth ih =>
    have names : (graph.namesIn id).Nodup :=
      (graph.namesIn_perm id).nodup_iff.mpr (distinct [] id rfl)
    rw [directoriesWithin, List.nodup_cons, List.nodup_flatMap]
    refine ⟨by simp, fun name _ => ?_, names.imp fun {name other} differs => ?_⟩
    · cases found : graph.directory? id name with
      | none => exact List.nodup_nil
      | some child =>
        have linked := (directory?_eq_some_iff.mp found).1
        rw [Option.toList_some, List.flatMap_singleton]
        refine (ih fun names node reached => ?_).map fun _ _ same => (List.cons.inj same).2
        exact distinct (name :: names) node (by rw [resolve, linked, Option.bind_some, reached])
    · rw [Function.onFun, List.disjoint_left]
      intro names listed listed'
      simp only [List.mem_flatMap, List.mem_map] at listed listed'
      obtain ⟨_, -, _, -, rfl⟩ := listed
      obtain ⟨_, -, _, -, same⟩ := listed'
      exact differs (List.cons.inj same).1.symm

end Graph

namespace FileSystem

variable {fs : FileSystem} {graph : Graph} {path : Path}

theorem outcome_readNode {α : Type} (opened : fs.isOpen = true)
    (place : fs.nodeAt? graph (fs.anchor path) path.segments = some node) (operation : String)
    (view : Path → Node → Except FsError α) : (fs.readNode operation path view graph).outcome =
      (view (path.toAbsolute fs.defaultRoot) (graph.node node), graph) := by
  obtain ⟨start, anchored, reached⟩ := Option.bind_eq_some_iff.mp place
  rw [← path.segments_toAbsolute fs.defaultRoot] at reached
  obtain ⟨above, route⟩ := Route.of_resolve reached
  have resolved : fs.resolveRoot path = .ok (path.toAbsolute fs.defaultRoot, start) :=
    resolveRoot_eq_ok.mpr ⟨rfl, fs.anchor path, path.root?_toAbsolute _, anchored⟩
  rw [readNode, Action.outcome_bind, outcome_ensureOpen, check_of_open opened, planRead, resolved]
  exact (Plan.outcome_ok _ graph).trans (Traversal.outcome_of_route _ route)

theorem nodeAt?_append (fs : FileSystem) (graph : Graph) (root : Root) (front rest : List String) :
    fs.nodeAt? graph root (front ++ rest) =
      (fs.nodeAt? graph root front).bind (graph.resolve · rest) := by
  unfold nodeAt?
  cases fs.roots.get? root with
  | none => rfl
  | some start => exact graph.resolve_append start front rest

/-- No place has as many names as there are nodes, since there is a node in each of the places
above. -/
theorem Rooted.length_lt_size (rooted : fs.Rooted graph)
    (place : fs.nodeAt? graph root names = some node) : names.length < graph.size := by
  have above (length : Fin (names.length + 1)) :
      ∃ node : Fin graph.size, fs.nodeAt? graph root (names.take length) = some node := by
    rw [← List.take_append_drop length names, nodeAt?_append] at place
    obtain ⟨node, place, -⟩ := Option.bind_eq_some_iff.mp place
    exact ⟨⟨node, rooted.inside place⟩, place⟩
  choose nodes places using above
  have injective : Function.Injective nodes := by
    intro length other same
    obtain ⟨-, fronts⟩ := rooted.apart (places length) (same ▸ places other)
    have lengths := congrArg List.length fronts
    simp only [List.length_take] at lengths
    omega
  have fewer := Fintype.card_le_of_injective nodes injective
  rwa [Fintype.card_fin, Fintype.card_fin] at fewer

theorem nodeAt?_join (place : fs.nodeAt? graph (fs.anchor path) path.segments = some node)
    (linked : graph.child? node name = some child) :
    fs.nodeAt? graph (fs.anchor (path.join name)) (path.join name).segments = some child := by
  rw [Path.segments_join, nodeAt?_concat]
  exact Option.bind_eq_some_iff.mpr ⟨node, place, linked⟩

theorem namesIn_of_directory {node : NodeId} (directory : (graph.node node).isDirectory = true)
    (absolute : Path) : namesIn absolute (graph.node node) = .ok (graph.namesIn node) := by
  obtain ⟨children, content⟩ := Node.isDirectory_iff.mp directory
  simp [namesIn, Graph.namesIn, Node.childNames?, content]

theorem outcome_listChildren (opened : fs.isOpen = true)
    (place : fs.nodeAt? graph (fs.anchor path) path.segments = some node)
    (directory : (graph.node node).isDirectory = true) :
    (fs.listChildren path graph).outcome = (.ok (graph.namesIn node), graph) := by
  rw [listChildren, outcome_readNode opened place, namesIn_of_directory directory]

theorem outcome_readBasic_join (opened : fs.isOpen = true)
    (place : fs.nodeAt? graph (fs.anchor path) path.segments = some node)
    (linked : graph.child? node name = some child) :
    (fs.readBasic (path.join name) graph).outcome =
      (.ok (graph.node child).basicAttributes, graph) := by
  rw [readBasic, outcome_readNode opened (nodeAt?_join place linked)]

theorem outcome_countWithin (opened : fs.isOpen = true)
    (place : fs.nodeAt? graph (fs.anchor path) path.segments = some node)
    (directory : (graph.node node).isDirectory = true) (depth : Nat) :
    (fs.countWithin depth path graph).outcome =
      (.ok (graph.directoriesWithin depth node).length, graph) := by
  induction depth generalizing path node with
  | zero => rfl
  | succ depth ih =>
    have listed := outcome_listChildren opened place directory
    have children (name : String) (there : name ∈ graph.namesIn node) (count : Nat) :
        ((do
          let attributes ← fs.readBasic (path.join name)
          if attributes.kind = .directory then
            return count + (← fs.countWithin depth (path.join name))
          else return count : Action Graph Nat) graph).outcome =
          (.ok (count + ((graph.directory? node name).toList.flatMap fun child =>
            (graph.directoriesWithin depth child).map (name :: ·)).length), graph) := by
      obtain ⟨child, linked⟩ := Graph.mem_namesIn.mp there
      have place' := nodeAt?_join place linked
      rw [Action.outcome_bind, outcome_readBasic_join opened place linked]
      dsimp only
      cases directory' : (graph.node child).isDirectory with
      | true =>
        have found := Graph.directory?_eq_some_iff.mpr ⟨linked, directory'⟩
        have kind : (graph.node child).basicAttributes.kind = .directory :=
          of_decide_eq_true directory'
        rw [if_pos kind, Action.outcome_bind, ih place' directory', found, Option.toList_some,
          List.flatMap_singleton, List.length_map]
        rfl
      | false =>
        have missing : graph.directory? node name = none := by
          simp [Graph.directory?, linked, directory']
        have kind : (graph.node child).basicAttributes.kind ≠ .directory :=
          of_decide_eq_false directory'
        rw [if_neg kind, missing]
        rfl
    rw [countWithin, Action.outcome_bind, listed]
    dsimp only
    rw [Action.outcome_foldlM children, Graph.directoriesWithin, List.length_cons,
      List.length_flatMap, Nat.add_comm]

def isDirectoryAt (fs : FileSystem) (graph : Graph) (root : Root) (names : List String) : Bool :=
  (fs.nodeAt? graph root names).any fun node => (graph.node node).isDirectory

theorem isDirectoryAt_iff : fs.isDirectoryAt graph root names = true ↔
    ∃ node, fs.nodeAt? graph root names = some node ∧ (graph.node node).isDirectory = true := by
  rw [isDirectoryAt, Option.any_eq_true]

theorem mem_map_directoriesWithin_iff (rooted : fs.Rooted graph)
    (place : fs.nodeAt? graph root front = some node)
    (directory : (graph.node node).isDirectory = true) :
    names ∈ (graph.directoriesWithin graph.size node).map (front ++ ·) ↔
      front <+: names ∧ fs.isDirectoryAt graph root names = true := by
  simp only [List.mem_map, Graph.mem_directoriesWithin_iff directory, isDirectoryAt_iff]
  constructor
  · rintro ⟨rest, ⟨-, found, reached, last⟩, rfl⟩
    refine ⟨List.prefix_append _ _, found, ?_, last⟩
    rw [nodeAt?_append, place, Option.bind_some, reached]
  · rintro ⟨⟨rest, rfl⟩, found, place', last⟩
    have short := rooted.length_lt_size place'
    rw [nodeAt?_append, place, Option.bind_some] at place'
    rw [List.length_append] at short
    exact ⟨rest, ⟨by omega, found, place', last⟩, rfl⟩

/-- The directories at and below a path are counted, each of them once. -/
theorem outcome_countDirectories (opened : fs.isOpen = true) (rooted : fs.Rooted graph)
    (directory : fs.isDirectoryAt graph (fs.anchor path) path.segments = true)
    {listed : List (List String)} (distinct : listed.Nodup)
    (exact : ∀ names, names ∈ listed ↔ path.segments <+: names ∧
      fs.isDirectoryAt graph (fs.anchor path) names = true) :
    (fs.countDirectories path graph).outcome = (.ok listed.length, graph) := by
  obtain ⟨node, place, directory⟩ := isDirectoryAt_iff.mp directory
  have names (names : List String) (below : NodeId)
      (reached : graph.resolve node names = some below) :
      ((graph.node below).children.map Prod.fst).Nodup := by
    have place' : fs.nodeAt? graph (fs.anchor path) (path.segments ++ names) = some below := by
      rw [nodeAt?_append, place, Option.bind_some, reached]
    exact rooted.distinct place'
  have distinct' : ((graph.directoriesWithin graph.size node).map (path.segments ++ ·)).Nodup :=
    (Graph.nodup_directoriesWithin names _).map (List.append_right_injective _)
  have same := (List.perm_ext_iff_of_nodup distinct distinct').mpr fun names =>
    (exact names).trans (mem_map_directoriesWithin_iff rooted place directory).symm
  rw [countDirectories, Action.outcome_bind, Action.outcome_inspect]
  dsimp only
  rw [outcome_countWithin opened place directory, same.length_eq, List.length_map]

end FileSystem

end CoupledFs
