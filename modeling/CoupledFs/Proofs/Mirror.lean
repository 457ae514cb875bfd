import CoupledFs.Proofs.Location
import CoupledFs.Proofs.LockDiscipline
import CoupledFs.Proofs.PathMap

/-! Trees of nodes as maps from lists of names. A traversal finds in the tree what can be read off the
map. -/

namespace CoupledFs

namespace Node

/-- What is known of a node besides its times. -/
def descriptor (node : Node) : Descriptor :=
  ⟨node.kind, node.size, node.mode, node.ownership⟩

@[simp]
theorem descriptor_link (node : Node) (now : Int) (name : String) (child : NodeId) :
    (node.link now name child).descriptor = node.descriptor := by
  unfold link descriptor kind size
  cases content : node.content <;> simp [content]

theorem kind_descriptor_iff {node : Node} :
    node.descriptor.kind = .directory ↔ node.isDirectory = true := by
  simp [descriptor, isDirectory]

theorem kind_descriptor_ne_iff {node : Node} :
    node.descriptor.kind ≠ .directory ↔ node.isDirectory = false := by
  simp [descriptor, isDirectory]

end Node

theorem Route.directory_above {graph : Graph} (route : Route graph start names above target)
    (inside : depth < names.length) :
    ∃ passed node, Route graph start (names.take depth) passed node ∧
      (graph.node node).isDirectory = true := by
  induction route generalizing depth with
  | here => cases inside
  | @down node child target name names above linked rest ih =>
    cases depth with
    | zero => exact ⟨[], node, .here node, Graph.isDirectory_of_child? linked⟩
    | succ depth =>
      obtain ⟨passed, stop, route, directory⟩ := ih (Nat.lt_of_succ_lt_succ inside)
      exact ⟨node :: passed, stop, .down linked route, directory⟩

namespace FileSystem

variable {fs : FileSystem} {graph : Graph} {map : PathMap}

/-- What is known of the node to which names lead from a root. -/
def entryAt? (fs : FileSystem) (graph : Graph) (root : Root) (names : List String) :
    Option Descriptor :=
  (fs.nodeAt? graph root names).map fun id => (graph.node id).descriptor

/-- A map that has the entries of the tree below a root. -/
def Mirrors (fs : FileSystem) (graph : Graph) (root : Root) (map : PathMap) : Prop :=
  ∀ names, map.get? names = fs.entryAt? graph root names

section Making

variable {make : Int → Node} (rooted : fs.Rooted graph)
  (place : fs.nodeAt? graph root front = some parent)
  (directory : (graph.node parent).isDirectory = true) (free : graph.child? parent name = none)
  (childless : (make graph.clock).children = [])

include rooted place directory free childless

/-- Making a node under a free name is all that can be seen, unless one looks at links. -/
theorem map_nodeAt?_addUnder {β : Type} {view : Node → β}
    (steady : ∀ node now name child, view (node.link now name child) = view node) (root' : Root)
    (names : List String) :
    (fs.nodeAt? (graph.addUnder parent name make) root' names).map
        (fun id => view ((graph.addUnder parent name make).node id)) =
      if root' = root ∧ names = front ++ [name] then some (view (make graph.clock))
      else (fs.nodeAt? graph root' names).map fun id => view (graph.node id) := by
  rw [nodeAt?_addUnder rooted place directory free childless]
  split
  · simp [Graph.node_addUnder directory]
  · cases found : fs.nodeAt? graph root' names with
    | none => rfl
    | some node =>
      have old : node ≠ graph.size := Nat.ne_of_lt (rooted.inside found)
      by_cases same : node = parent
      · subst same
        simp [Graph.node_addUnder directory, old, steady]
      · simp [Graph.node_addUnder directory, old, same]

theorem entryAt?_addUnder (root' : Root) (names : List String) :
    fs.entryAt? (graph.addUnder parent name make) root' names =
      if root' = root ∧ names = front ++ [name] then some (make graph.clock).descriptor
      else fs.entryAt? graph root' names :=
  map_nodeAt?_addUnder rooted place directory free childless Node.descriptor_link root' names

end Making

section Way

variable {path : Path} {start node : NodeId} (mirrors : fs.Mirrors graph root map)
  (anchor : fs.roots.get? root = some start)

include mirrors anchor

theorem Mirrors.get?_of_route (route : Route graph start names above node) :
    map.get? names = some (graph.node node).descriptor := by
  simp [mirrors names, entryAt?, nodeAt?, anchor, route.resolve]

theorem Mirrors.get?_of_missing (route : Route graph start front above node)
    (missing : graph.child? node name = none) : map.get? (front ++ [name]) = none := by
  simp [mirrors _, entryAt?, nodeAt?, anchor, graph.resolve_concat, route.resolve, missing]

theorem Mirrors.clear_above (segments : path.segments = front ++ rest)
    (route : Route graph start front above node) :
    ∀ depth < front.length, map.barrier? path depth = none := by
  intro depth inside
  obtain ⟨passed, stop, route', directory⟩ := route.directory_above inside
  refine PathMap.barrier?_eq_none_iff.mpr ⟨_, ?_, Node.kind_descriptor_iff.mpr directory⟩
  rw [segments, List.take_append_of_le_length (Nat.le_of_lt inside)]
  exact mirrors.get?_of_route anchor route'

theorem Mirrors.clear_through (segments : path.segments = front ++ rest)
    (route : Route graph start front above node) (directory : (graph.node node).isDirectory = true) :
    ∀ depth < front.length + 1, map.barrier? path depth = none := by
  intro depth inside
  rcases Nat.lt_succ_iff_lt_or_eq.mp inside with earlier | rfl
  · exact mirrors.clear_above anchor segments route depth earlier
  · refine PathMap.barrier?_eq_none_iff.mpr ⟨_, ?_, Node.kind_descriptor_iff.mpr directory⟩
    rw [segments, List.take_left]
    exact mirrors.get?_of_route anchor route

theorem Mirrors.obstacle?_of_leaf (segments : path.segments = front ++ name :: rest)
    (route : Route graph start front above node) (leaf : (graph.node node).isDirectory = false) :
    map.obstacle? path = some (.notADirectory (path.displayUpTo front.length)) := by
  refine PathMap.obstacle?_of_barrier (by simp [segments])
    (mirrors.clear_above anchor segments route) (PathMap.barrier?_of_leaf ?_
      (Node.kind_descriptor_ne_iff.mpr leaf))
  rw [segments, List.take_left]
  exact mirrors.get?_of_route anchor route

theorem Mirrors.obstacle?_of_missing (segments : path.segments = front ++ name :: next :: rest)
    (route : Route graph start front above node) (directory : (graph.node node).isDirectory = true)
    (missing : graph.child? node name = none) :
    map.obstacle? path = some (.noSuchFile (path.displayUpTo (front.length + 1))) := by
  refine PathMap.obstacle?_of_barrier (by simp [segments])
    (mirrors.clear_through anchor segments route directory) (PathMap.barrier?_of_missing ?_)
  have names : path.segments = (front ++ [name]) ++ next :: rest := by simp [segments]
  have length : front.length + 1 = (front ++ [name]).length := by simp
  rw [names, length, List.take_left]
  exact mirrors.get?_of_missing anchor route missing

theorem Mirrors.obstacle?_of_directory (segments : path.segments = front ++ [name])
    (route : Route graph start front above node) (directory : (graph.node node).isDirectory = true) :
    map.obstacle? path = none := by
  have length : path.segments.length = front.length + 1 := by simp [segments]
  rw [PathMap.obstacle?_eq_none_iff, length]
  exact mirrors.clear_through anchor segments route directory

theorem Mirrors.lookUp_of_route (route : Route graph start path.segments above node) :
    map.lookUp path = .ok (graph.node node).descriptor := by
  have clear : map.obstacle? path = none :=
    PathMap.obstacle?_eq_none_iff.mpr (mirrors.clear_above anchor (List.append_nil _).symm route)
  simp only [PathMap.lookUp, clear, mirrors.get?_of_route anchor route]

/-- Looking up a path in the map fails as looking it up in the tree does. -/
theorem Mirrors.lookUp_of_stop (t : Traversal α) (segments : t.path.segments = front ++ name :: rest)
    (route : Route graph start front above node) (stop : graph.child? node name = none) :
    map.lookUp t.path = .error (t.stopError graph node above.length) := by
  unfold Traversal.stopError
  rw [route.length_above]
  cases directory : (graph.node node).isDirectory with
  | false => simp [PathMap.lookUp, mirrors.obstacle?_of_leaf anchor segments route directory]
  | true =>
    cases rest with
    | nil =>
      have missing := mirrors.get?_of_missing anchor route stop
      have whole : t.path.displayUpTo (front.length + 1) = t.path.display := by
        have length : front.length + 1 = t.path.segments.length := by simp [segments]
        rw [length, Path.displayUpTo_length]
      simp [PathMap.lookUp, mirrors.obstacle?_of_directory anchor segments route directory, segments,
        missing, whole]
    | cons next rest =>
      simp [PathMap.lookUp, mirrors.obstacle?_of_missing anchor segments route directory stop]

end Way

theorem Mirrors.namesBelow (mirrors : fs.Mirrors graph root map) (rooted : fs.Rooted graph)
    (place : fs.nodeAt? graph root names = some node) :
    map.namesBelow names = ((graph.node node).children.map Prod.fst).mergeSort (· ≤ ·) := by
  have members (name : String) :
      name ∈ map.namesBelow names ↔ name ∈ (graph.node node).children.map Prod.fst := by
    rw [PathMap.mem_namesBelow, mirrors, entryAt?, Option.isSome_map, nodeAt?_concat, place,
      Option.bind_some, Graph.child?, ← Option.ne_none_iff_isSome, ne_eq, Node.child?_eq_none_iff,
      not_not]
  have same := (List.perm_ext_iff_of_nodup (map.nodup_namesBelow names)
    (rooted.distinct place)).mpr members
  have sorted (list : List String) : (list.mergeSort (· ≤ ·)).Pairwise (· ≤ ·) := by
    have ordered := @List.pairwise_mergeSort String (fun a b => decide (a ≤ b))
      (by simpa using fun _ _ _ => String.le_trans) (by simpa using String.le_total) list
    simpa using ordered
  exact (same.trans (List.mergeSort_perm _ _).symm).eq_of_pairwise
    (fun _ _ _ _ => String.le_antisymm) (sorted _) (sorted _)

end FileSystem

end CoupledFs
