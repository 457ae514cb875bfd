import CoupledFs.Proofs.Upkeep

/-! Forests of nodes: no node is linked twice, none is below itself, and the roots are at the top. A
node that names lead to from a root is then in that place and in no other. -/

namespace CoupledFs

namespace Path

variable (path : Path) (defaultRoot : Root)

theorem root?_toAbsolute :
    (path.toAbsolute defaultRoot).root? = some (path.root?.getD defaultRoot) := by
  cases path with
  | root r => rfl
  | element e =>
    unfold toAbsolute
    cases rooted : e.root <;> simp [root?, rooted]

@[simp]
theorem segments_toAbsolute : (path.toAbsolute defaultRoot).segments = path.segments := by
  cases path with
  | root r => rfl
  | element e =>
    unfold toAbsolute
    cases rooted : e.root <;> simp [segments, rooted]

end Path

namespace Graph

/-- A graph in which no node is linked twice and none lies below itself. -/
structure Arboreal (graph : Graph) : Prop where
  treelike : graph.Treelike
  once : ∀ ⦃parent name parent' name' child⦄, graph.child? parent name = some child →
    graph.child? parent' name' = some child → parent = parent' ∧ name = name'
  /-- No directory has a name twice. -/
  distinct : ∀ node, ((graph.node node).children.map Prod.fst).Nodup

theorem arboreal_empty : ({} : Graph).Arboreal where
  treelike := treelike_empty
  once := fun parent _ _ _ _ linked => by
    rw [child?_of_size_le (Nat.zero_le parent)] at linked
    cases linked
  distinct := fun node => by
    rw [node_of_size_le (Nat.zero_le node)]
    exact List.nodup_nil

theorem Arboreal.at_time {graph : Graph} (arboreal : graph.Arboreal) (now : Int) :
    { graph with clock := now }.Arboreal :=
  ⟨⟨arboreal.treelike.closed, arboreal.treelike.loopless⟩, arboreal.once, arboreal.distinct⟩

/-- Making an empty node under a free name leaves a forest. -/
theorem Arboreal.addUnder {graph : Graph} (arboreal : graph.Arboreal)
    (directory : (graph.node parent).isDirectory = true) (free : graph.child? parent name = none)
    {make : Int → Node} (childless : (make graph.clock).children = []) :
    (graph.addUnder parent name make).Arboreal where
  treelike := arboreal.treelike.grafts (grafts_addUnder directory free childless)
  once := by
    -- The new node is linked by the new link only, and old nodes by old links.
    intro above first above' second child linked linked'
    rw [child?_addUnder directory free childless] at linked linked'
    have old {upper : NodeId} {other : String}
        (found : graph.child? upper other = some child) : child ≠ graph.size :=
      Nat.ne_of_lt (arboreal.treelike.closed found)
    split at linked <;> split at linked'
    · rename_i here here'
      exact ⟨here.1.trans here'.1.symm, here.2.trans here'.2.symm⟩
    · cases linked
      exact absurd rfl (old linked')
    · cases linked'
      exact absurd rfl (old linked)
    · exact arboreal.once linked linked'
  distinct := by
    intro id
    rw [node_addUnder directory]
    split
    · rw [childless]
      exact List.nodup_nil
    · split
      · exact Node.nodup_names_link directory free (arboreal.distinct parent) _ _
      · exact arboreal.distinct id

theorem Arboreal.of_children {before after : Graph} (arboreal : before.Arboreal)
    (larger : before.size ≤ after.size)
    (same : ∀ id, (after.node id).children = (before.node id).children) : after.Arboreal := by
  have links (id : NodeId) (name : String) : after.child? id name = before.child? id name := by
    simp only [child?, Node.child?, same]
  have links_eq : after.Links = before.Links := by
    funext parent child
    simp only [Links, links]
  refine ⟨⟨?closed, ?loopless⟩, ?once, ?distinct⟩
  case closed =>
    intro parent name child linked
    rw [links] at linked
    exact Nat.lt_of_lt_of_le (arboreal.treelike.closed linked) larger
  case loopless =>
    intro node above
    rw [Above, links_eq] at above
    exact arboreal.treelike.loopless node above
  case once =>
    intro parent name parent' name' child linked linked'
    rw [links] at linked linked'
    exact arboreal.once linked linked'
  case distinct =>
    intro node
    rw [same]
    exact arboreal.distinct node

end Graph

namespace FileSystem

variable {fs : FileSystem} {graph : Graph}

/-- Each root of a file system stands for a directory of its own, which nothing links. -/
structure Planted (fs : FileSystem) (graph : Graph) : Prop where
  directory : ∀ ⦃root start⦄, fs.roots.get? root = some start →
    (graph.node start).isDirectory = true
  separate : ∀ ⦃root root' start⦄, fs.roots.get? root = some start →
    fs.roots.get? root' = some start → root = root'
  topmost : ∀ ⦃root start⦄, fs.roots.get? root = some start → ∀ node, ¬ graph.Links node start

def Reaches (fs : FileSystem) (graph : Graph) (node : NodeId) : Prop :=
  ∃ root names, fs.nodeAt? graph root names = some node

/-- A file system whose nodes make up trees, one for each root. -/
structure Forest (fs : FileSystem) (graph : Graph) : Prop extends Planted fs graph where
  /-- Links lead to nodes that exist, and no node is below itself. -/
  treelike : graph.Treelike
  /-- Every node that is no root has one name in one directory. -/
  linkedOnce : ∀ ⦃node⦄, fs.Reaches graph node → (∀ root, fs.roots.get? root ≠ some node) →
    ∃! link : NodeId × String, graph.child? link.1 link.2 = some node
  /-- Only directories have children. -/
  leaf : ∀ ⦃node⦄, (graph.node node).isDirectory = false → ∀ name, graph.child? node name = none
  /-- No directory has a name twice. -/
  distinct : ∀ node, ((graph.node node).children.map Prod.fst).Nodup

theorem nodeAt?_nil (fs : FileSystem) (graph : Graph) (root : Root) :
    fs.nodeAt? graph root [] = fs.roots.get? root := by
  unfold nodeAt?
  cases fs.roots.get? root <;> rfl

theorem nodeAt?_of_route (anchored : fs.roots.get? root = some start)
    (route : Route graph start names above target) : fs.nodeAt? graph root names = some target :=
  Option.bind_eq_some_iff.mpr ⟨start, anchored, route.resolve⟩

/-- A place is a root, or a name in the directory of another place. -/
theorem place_cases (found : fs.nodeAt? graph root names = some node) :
    names = [] ∧ fs.roots.get? root = some node ∨
      ∃ front last parent, names = front ++ [last] ∧ fs.nodeAt? graph root front = some parent ∧
        graph.child? parent last = some node := by
  cases names using List.reverseRecOn with
  | nil =>
    rw [nodeAt?_nil] at found
    exact .inl ⟨rfl, found⟩
  | append_singleton front last =>
    rw [nodeAt?_concat] at found
    obtain ⟨parent, place, linked⟩ := Option.bind_eq_some_iff.mp found
    exact .inr ⟨front, last, parent, rfl, place, linked⟩

theorem Forest.apart (forest : fs.Forest graph)
    (found : fs.nodeAt? graph root names = some node)
    (found' : fs.nodeAt? graph root' names' = some node) : root = root' ∧ names = names' := by
  -- By induction from the end of the first place up to its root: the links to the node are the same.
  induction names using List.reverseRecOn generalizing names' node with
  | nil =>
    rw [nodeAt?_nil] at found
    rcases place_cases found' with ⟨rfl, anchor'⟩ | ⟨_, last', parent, -, -, linked⟩
    · exact ⟨forest.separate found anchor', rfl⟩
    · exact absurd ⟨last', linked⟩ (forest.topmost found parent)
  | append_singleton front last ih =>
    have reached : fs.Reaches graph node := ⟨root, _, found⟩
    rw [nodeAt?_concat] at found
    obtain ⟨parent, place, linked⟩ := Option.bind_eq_some_iff.mp found
    have inner : ∀ other, fs.roots.get? other ≠ some node := by
      intro other anchor
      exact forest.topmost anchor parent ⟨last, linked⟩
    rcases place_cases found' with ⟨-, anchor'⟩ | ⟨front', last', parent', rfl, place', linked'⟩
    · exact absurd anchor' (inner root')
    · have same : (parent, last) = (parent', last') :=
        (forest.linkedOnce reached inner).unique linked linked'
      obtain ⟨rfl, rfl⟩ := Prod.mk.inj same
      obtain ⟨rfl, rfl⟩ := ih place place'
      exact ⟨rfl, rfl⟩

theorem Forest.rooted (forest : fs.Forest graph) : fs.Rooted graph where
  inside := by
    intro root names node found
    rcases place_cases found with ⟨-, anchor⟩ | ⟨_, _, _, -, -, linked⟩
    · exact Graph.lt_size_of_isDirectory (forest.directory anchor)
    · exact forest.treelike.closed linked
  apart := fun _ _ _ _ _ found found' => forest.apart found found'
  anchored := forest.directory
  distinct := fun _ _ node _ => forest.distinct node

/-- Roots at the top of a forest make a file system with trees. -/
theorem Planted.forest (planted : fs.Planted graph) (arboreal : graph.Arboreal) :
    fs.Forest graph where
  toPlanted := planted
  treelike := arboreal.treelike
  linkedOnce := by
    rintro node ⟨root, names, found⟩ inner
    rcases place_cases found with ⟨-, anchor⟩ | ⟨_, last, parent, -, -, linked⟩
    · exact absurd anchor (inner root)
    · refine ⟨(parent, last), linked, ?_⟩
      rintro ⟨parent', last'⟩ linked'
      obtain ⟨rfl, rfl⟩ := arboreal.once linked linked'
      rfl
  leaf := by
    intro node leaf name
    rw [Graph.child?, Node.child?, Node.children_of_not_directory leaf]
    rfl
  distinct := arboreal.distinct

/-- Roots stay at the top while nodes stay what they are and only new nodes are linked anew. -/
theorem Planted.mono {after : Graph} (planted : fs.Planted graph) (keeps : graph.Keeps after)
    (links : ∀ ⦃parent child⦄, after.Links parent child → child < graph.size →
      graph.Links parent child) : fs.Planted after where
  directory := by
    intro root start anchor
    have directory := planted.directory anchor
    obtain ⟨-, same⟩ := keeps start (Graph.lt_size_of_isDirectory directory)
    rw [Node.isDirectory_of_bare same, directory]
  separate := planted.separate
  topmost := by
    intro root start anchor node linked
    have inside := Graph.lt_size_of_isDirectory (planted.directory anchor)
    exact planted.topmost anchor node (links linked inside)

theorem Planted.addUnder (planted : fs.Planted graph)
    (directory : (graph.node parent).isDirectory = true) (free : graph.child? parent name = none)
    {make : Int → Node} (childless : (make graph.clock).children = []) :
    fs.Planted (graph.addUnder parent name make) := by
  refine planted.mono (Graph.keeps_addUnder directory name make) ?_
  rintro upper lower ⟨other, linked⟩ inside
  rcases (Graph.grafts_addUnder directory free childless).fresh linked with old | ⟨-, new, -⟩
  · exact ⟨other, old⟩
  · exact absurd inside (Nat.not_lt_of_le new)

def anchor (fs : FileSystem) (path : Path) : Root :=
  path.root?.getD fs.defaultRoot

theorem find?_eq_nodeAt? (fs : FileSystem) (graph : Graph) (path : Path) :
    fs.find? graph path = fs.nodeAt? graph (fs.anchor path) path.segments := by
  have rooted := path.root?_toAbsolute fs.defaultRoot
  simp only [find?, resolveRoot, rooted, Option.bind_some, nodeAt?, anchor]
  cases fs.roots.get? (path.root?.getD fs.defaultRoot) with
  | none => rfl
  | some start => simp

/-- In a forest, two paths lead to one node if and only if they name one place. -/
theorem Forest.find?_eq_iff (forest : fs.Forest graph) {path other : Path}
    (found : fs.find? graph path = some node) (found' : fs.find? graph other = some node') :
    node = node' ↔ fs.anchor path = fs.anchor other ∧ path.segments = other.segments := by
  rw [find?_eq_nodeAt?] at found found'
  constructor
  · rintro rfl
    exact forest.apart found found'
  · rintro ⟨root, names⟩
    rw [root, names] at found
    exact Option.some.inj (found.symm.trans found')

section Built

variable {key : String} {config : Config} {registered : Bool} {before : Graph}
  (built : (build key config registered before).outcome = (.ok fs, graph))

include built

theorem node_of_build (id : Nat) : graph.node id =
    if before.size ≤ id ∧ id < graph.size
      then .newDirectory before.clock config.directoryMode config.ownership
      else before.node id := by
  obtain ⟨first, others, -, -, rfl⟩ := build_eq_ok built
  simp only [Graph.node, Graph.size, Array.size_append, Array.size_replicate,
    Array.getElem?_append, Array.getElem?_replicate]
  by_cases old : id < before.nodes.size
  · have inside : ¬ (before.nodes.size ≤ id ∧ id < before.nodes.size + (others.length + 1)) := by
      omega
    simp [old, inside]
  · by_cases new : id < before.nodes.size + (others.length + 1)
    · have added : id - before.nodes.size < others.length + 1 := by omega
      simp [old, new, added, Nat.le_of_not_lt old]
    · have beyond : ¬ id - before.nodes.size < others.length + 1 := by omega
      simp [old, new, beyond]

theorem size_of_build : before.size ≤ graph.size := by
  obtain ⟨first, others, -, -, rfl⟩ := build_eq_ok built
  simp [Graph.size]

theorem children_of_build (id : NodeId) :
    (graph.node id).children = (before.node id).children := by
  rw [node_of_build built]
  split
  · rename_i new
    rw [Graph.node_of_size_le new.1]
    rfl
  · rfl

theorem keeps_of_build : before.Keeps graph := by
  intro node inside
  refine ⟨Nat.lt_of_lt_of_le inside (size_of_build built), ?_⟩
  rw [node_of_build built, if_neg fun new => Nat.not_lt_of_le new.1 inside]

theorem links_of_build (linked : graph.Links parent child) : before.Links parent child := by
  obtain ⟨name, linked⟩ := linked
  refine ⟨name, ?_⟩
  rw [← linked]
  simp only [Graph.child?, Node.child?, children_of_build built]

theorem size_le_of_root (anchor : fs.roots.get? root = some start) : before.size ≤ start := by
  obtain ⟨first, others, -, rfl, -⟩ := build_eq_ok built
  exact (List.mem_zipIdx (RootTable.mem_of_get?_ofList anchor)).1

theorem arboreal_of_build (arboreal : before.Arboreal) : graph.Arboreal :=
  arboreal.of_children (size_of_build built) (children_of_build built)

theorem planted_of_build (treelike : before.Treelike) : fs.Planted graph where
  directory := (rooted_of_build built).anchored
  separate := fun _ _ _ anchor anchor' => root_unique built anchor anchor'
  topmost := by
    intro root start anchor node linked
    obtain ⟨name, linked⟩ := links_of_build built linked
    exact Nat.not_lt_of_le (size_le_of_root built anchor) (treelike.closed linked)

theorem Planted.of_build {other : FileSystem} (planted : other.Planted before) :
    other.Planted graph :=
  planted.mono (keeps_of_build built) fun _ _ linked _ => links_of_build built linked

end Built

end FileSystem

end CoupledFs
