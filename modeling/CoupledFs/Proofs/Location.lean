import CoupledFs.FileSystem
import CoupledFs.Proofs.Route
import Mathlib.Data.List.Induction

/-! Where the nodes of a file system are. In the tree of a file system, every node is in one place
only, and making a node changes what is in one place. -/

namespace CoupledFs

namespace Node

theorem child?_eq_none_iff {node : Node} :
    node.child? name = none ↔ name ∉ node.children.map Prod.fst := by
  unfold child?
  induction node.children with
  | nil => simp
  | cons link links ih =>
    obtain ⟨other, child⟩ := link
    by_cases same : name = other
    · simp [same]
    · have differs : (name == other) = false := by simpa using same
      simp [List.lookup_cons, differs, same, ih]

theorem nodup_names_link {node : Node} (directory : node.isDirectory = true)
    (free : node.child? name = none) (distinct : (node.children.map Prod.fst).Nodup) (now : Int)
    (child : NodeId) : ((node.link now name child).children.map Prod.fst).Nodup := by
  rw [children_link directory, List.map_append]
  have absent := child?_eq_none_iff.mp free
  refine List.nodup_append.mpr ⟨distinct, by simp, ?_⟩
  rintro other member _ last rfl
  simp only [List.map_cons, List.map_nil, List.mem_singleton] at last
  exact absent (last ▸ member)

end Node

namespace FileSystem

/-- The node to which names lead from a root. -/
def nodeAt? (fs : FileSystem) (graph : Graph) (root : Root) (names : List String) : Option NodeId :=
  (fs.roots.get? root).bind (graph.resolve · names)

theorem nodeAt?_concat (fs : FileSystem) (graph : Graph) (root : Root) (names : List String)
    (name : String) : fs.nodeAt? graph root (names ++ [name]) =
      (fs.nodeAt? graph root names).bind (graph.child? · name) := by
  unfold nodeAt?
  cases fs.roots.get? root with
  | none => rfl
  | some start => exact graph.resolve_concat start names name

theorem nodeAt?_of_extends {fs : FileSystem} {graph : Graph}
    (found : fs.nodeAt? graph root names = some node) (grown : graph.Extends after) :
    fs.nodeAt? after root names = some node := by
  obtain ⟨start, anchored, reached⟩ := Option.bind_eq_some_iff.mp found
  obtain ⟨above, route⟩ := Route.of_resolve reached
  exact Option.bind_eq_some_iff.mpr ⟨start, anchored, (route.mono grown).resolve⟩

/-- The part of a graph that can be got to from the roots of a file system is a tree. -/
structure Rooted (fs : FileSystem) (graph : Graph) : Prop where
  inside : ∀ ⦃root names node⦄, fs.nodeAt? graph root names = some node → node < graph.size
  /-- No node is in two places. -/
  apart : ∀ ⦃root names root' names' node⦄, fs.nodeAt? graph root names = some node →
    fs.nodeAt? graph root' names' = some node → root = root' ∧ names = names'
  /-- Roots stand for directories. -/
  anchored : ∀ ⦃root start⦄, fs.roots.get? root = some start →
    (graph.node start).isDirectory = true
  /-- No directory has a name twice. -/
  distinct : ∀ ⦃root names node⦄, fs.nodeAt? graph root names = some node →
    ((graph.node node).children.map Prod.fst).Nodup

section Making

variable {fs : FileSystem} {graph : Graph} {make : Int → Node} (rooted : fs.Rooted graph)
  (place : fs.nodeAt? graph root front = some parent)
  (directory : (graph.node parent).isDirectory = true) (free : graph.child? parent name = none)
  (childless : (make graph.clock).children = [])

include rooted place directory free childless

theorem nodeAt?_addUnder (root' : Root) (names : List String) :
    fs.nodeAt? (graph.addUnder parent name make) root' names =
      if root' = root ∧ names = front ++ [name] then some graph.size
      else fs.nodeAt? graph root' names := by
  -- By induction from the root down: the places above a place are settled before it.
  induction names using List.reverseRecOn with
  | nil => simp [nodeAt?, Graph.resolve]
  | append_singleton names last ih =>
    rw [nodeAt?_concat, nodeAt?_concat, ih]
    by_cases here : root' = root ∧ names = front ++ [name]
    · obtain ⟨rfl, rfl⟩ := here
      have nothing : fs.nodeAt? graph root' (front ++ [name]) = none := by
        rw [nodeAt?_concat, place]
        exact free
      have leaf : (graph.addUnder parent name make).child? graph.size last = none := by
        have new : graph.size ≠ parent := Nat.ne_of_gt (rooted.inside place)
        rw [Graph.child?_addUnder directory free childless, if_neg fun same => new same.1]
        exact Graph.child?_of_size_le (Nat.le_refl _) last
      simp [nothing, leaf]
    · rw [if_neg here]
      cases found : fs.nodeAt? graph root' names with
      | none =>
        have elsewhere : ¬ (root' = root ∧ names ++ [last] = front ++ [name]) := by
          rintro ⟨rfl, same⟩
          rw [(List.append_inj' same rfl).1, place] at found
          cases found
        rw [if_neg elsewhere]
        rfl
      | some node =>
        have same_link : (node = parent ∧ last = name) ↔
            (root' = root ∧ names ++ [last] = front ++ [name]) := by
          constructor
          · rintro ⟨rfl, rfl⟩
            obtain ⟨rfl, rfl⟩ := rooted.apart found place
            exact ⟨rfl, rfl⟩
          · rintro ⟨rfl, same⟩
            obtain ⟨rfl, last⟩ := List.append_inj' same rfl
            exact ⟨Option.some.inj (found.symm.trans place), List.singleton_inj.mp last⟩
        simp only [Option.bind_some, Graph.child?_addUnder directory free childless, same_link]

/-- A node that is in a place after another was made is that one, or was there before. -/
theorem place_of_addUnder
    (found : fs.nodeAt? (graph.addUnder parent name make) root' names = some node) :
    node = graph.size ∧ root' = root ∧ names = front ++ [name] ∨
      node ≠ graph.size ∧ fs.nodeAt? graph root' names = some node := by
  rw [nodeAt?_addUnder rooted place directory free childless] at found
  split at found
  · rename_i here
    exact .inl ⟨(Option.some.inj found).symm, here⟩
  · exact .inr ⟨Nat.ne_of_lt (rooted.inside found), found⟩

/-- Making a node under a free name leaves a tree. -/
theorem Rooted.addUnder : fs.Rooted (graph.addUnder parent name make) := by
  have at_place {root' : Root} {names : List String} {node : NodeId}
      (found : fs.nodeAt? (graph.addUnder parent name make) root' names = some node) :=
    place_of_addUnder rooted place directory free childless found
  refine ⟨?inside, ?apart, ?anchored, ?distinct⟩
  case inside =>
    intro root' names node found
    rw [Graph.size_addUnder]
    rcases at_place found with ⟨rfl, -⟩ | ⟨-, old⟩
    · exact Nat.lt_succ_self _
    · exact Nat.lt_succ_of_lt (rooted.inside old)
  case apart =>
    intro root₁ names₁ root₂ names₂ node first second
    rcases at_place first with ⟨rfl, rfl, rfl⟩ | ⟨old, first⟩
    · rcases at_place second with ⟨-, rfl, rfl⟩ | ⟨new, -⟩
      · exact ⟨rfl, rfl⟩
      · exact absurd rfl new
    · rcases at_place second with ⟨new, -⟩ | ⟨-, second⟩
      · exact absurd new old
      · exact rooted.apart first second
  case anchored =>
    intro root' start anchor
    have old := rooted.anchored anchor
    have inside := Graph.lt_size_of_isDirectory old
    rw [Graph.node_addUnder directory, if_neg (Nat.ne_of_lt inside)]
    split
    · rename_i same
      subst same
      simpa using old
    · exact old
  case distinct =>
    intro root' names node found
    rw [Graph.node_addUnder directory]
    rcases at_place found with ⟨rfl, -⟩ | ⟨old, found⟩
    · simp [childless]
    · rw [if_neg old]
      split
      · exact Node.nodup_names_link directory free (rooted.distinct place) _ _
      · exact rooted.distinct found

end Making

theorem nodeAt?_congr (fs : FileSystem) {graph other : Graph}
    (same : ∀ id name, other.child? id name = graph.child? id name) (root : Root)
    (names : List String) : fs.nodeAt? other root names = fs.nodeAt? graph root names := by
  unfold nodeAt?
  cases fs.roots.get? root with
  | none => rfl
  | some start => exact Graph.resolve_congr same start names

theorem nodeAt?_at_time (fs : FileSystem) (graph : Graph) (now : Int) (root : Root)
    (names : List String) :
    fs.nodeAt? { graph with clock := now } root names = fs.nodeAt? graph root names := by
  have links (id : NodeId) (name : String) :
      ({ graph with clock := now } : Graph).child? id name = graph.child? id name := rfl
  exact fs.nodeAt?_congr links root names

theorem Rooted.at_time {fs : FileSystem} {graph : Graph} (rooted : fs.Rooted graph) (now : Int) :
    fs.Rooted { graph with clock := now } := by
  constructor
  · intro root names node found
    rw [nodeAt?_at_time] at found
    exact rooted.inside found
  · intro root names root' names' node found found'
    rw [nodeAt?_at_time] at found found'
    exact rooted.apart found found'
  · exact rooted.anchored
  · intro root names node found
    rw [nodeAt?_at_time] at found
    exact rooted.distinct found

end FileSystem

end CoupledFs
