import CoupledFs.Proofs.Route
import Mathlib.Logic.Relation

/-! Graphs without loops, and growth that makes none. -/

namespace CoupledFs

namespace Graph

def Links (graph : Graph) (parent child : NodeId) : Prop :=
  ∃ name, graph.child? parent name = some child

def Above (graph : Graph) : NodeId → NodeId → Prop :=
  Relation.TransGen graph.Links

/-- Links lead to nodes that were made, and never back up. A node may be linked under more than one
name, unlike in a tree. -/
structure Treelike (graph : Graph) : Prop where
  closed : ∀ ⦃parent name child⦄, graph.child? parent name = some child → child < graph.size
  loopless : ∀ node, ¬ graph.Above node node

/-- Nothing was done to a graph but to hang new nodes under a target. New nodes may link one
another, and only not in a circle. -/
structure Grafts (before : Graph) (target : NodeId) (after : Graph) : Prop where
  kept : before.Extends after
  larger : before.size ≤ after.size
  fresh : ∀ ⦃parent name child⦄, after.child? parent name = some child →
    before.child? parent name = some child ∨
      (parent = target ∨ before.size ≤ parent) ∧ before.size ≤ child ∧ child < after.size
  loopless : ∀ node, before.size ≤ node → ¬ after.Above node node

theorem Grafts.refl {graph : Graph} (target : NodeId) : graph.Grafts target graph where
  kept := .refl graph
  larger := Nat.le_refl _
  fresh := fun _ _ _ linked => .inl linked
  loopless := by
    intro node outside above
    obtain ⟨_, ⟨_, linked⟩, _⟩ := Relation.TransGen.head'_iff.mp above
    exact Nat.not_lt_of_le outside (lt_size_of_child? linked)

/-- New nodes have only new nodes below them, and an old node has the old ones that it had. -/
theorem Grafts.above {before after : Graph} (grafts : before.Grafts target after)
    (above : after.Above upper lower) :
    before.size ≤ lower ∨ before.Above upper lower := by
  induction above with
  | single linked =>
    obtain ⟨name, linked⟩ := linked
    rcases grafts.fresh linked with old | ⟨-, new, -⟩
    · exact .inr (.single ⟨name, old⟩)
    · exact .inl new
  | tail _ linked ih =>
    obtain ⟨name, linked⟩ := linked
    rcases grafts.fresh linked with old | ⟨-, new, -⟩
    · rcases ih with outside | upto
      · exact absurd (lt_size_of_child? old) (Nat.not_lt_of_le outside)
      · exact .inr (upto.tail ⟨name, old⟩)
    · exact .inl new

theorem Treelike.grafts {before after : Graph} (treelike : before.Treelike)
    (grafts : before.Grafts target after) : after.Treelike where
  closed := by
    intro parent name child linked
    rcases grafts.fresh linked with old | ⟨-, -, inside⟩
    · exact Nat.lt_of_lt_of_le (treelike.closed old) grafts.larger
    · exact inside
  loopless := by
    intro node above
    rcases grafts.above above with new | old
    · exact grafts.loopless node new above
    · exact treelike.loopless node old

theorem grafts_addUnder {graph : Graph} (directory : (graph.node parent).isDirectory = true)
    (free : graph.child? parent name = none) {make : Int → Node}
    (childless : (make graph.clock).children = []) :
    graph.Grafts parent (graph.addUnder parent name make) where
  kept := extends_addUnder directory free childless
  larger := by simp
  fresh := by
    intro id other child linked
    rw [child?_addUnder directory free childless] at linked
    split at linked
    · rename_i here
      cases linked
      exact .inr ⟨.inl here.1, Nat.le_refl _, by simp⟩
    · exact .inl linked
  loopless := by
    intro node outside above
    obtain ⟨_, ⟨other, linked⟩, _⟩ := Relation.TransGen.head'_iff.mp above
    have inside := lt_size_of_isDirectory directory
    rw [child?_addUnder directory free childless, if_neg, child?_of_size_le outside] at linked
    · cases linked
    · exact fun here => Nat.not_lt_of_le outside (here.1 ▸ inside)

theorem child?_add {graph : Graph} {make : Int → Node} (childless : (make graph.clock).children = [])
    (id : NodeId) (name : String) : (graph.add make).1.child? id name = graph.child? id name := by
  unfold child?
  rw [node_add]
  split
  · rename_i fresh
    rw [node_of_size_le (Nat.le_of_eq fresh.symm), Node.child?, childless]
    rfl
  · rfl

theorem grafts_add {graph : Graph} {make : Int → Node} (childless : (make graph.clock).children = [])
    (target : NodeId) : graph.Grafts target (graph.add make).1 where
  kept := fun _ _ _ linked => by rwa [child?_add childless]
  larger := by simp
  fresh := fun _ _ _ linked => by
    rw [child?_add childless] at linked
    exact .inl linked
  loopless := by
    intro node outside above
    obtain ⟨_, ⟨_, linked⟩, _⟩ := Relation.TransGen.head'_iff.mp above
    rw [child?_add childless, child?_of_size_le outside] at linked
    cases linked

theorem treelike_empty : ({} : Graph).Treelike where
  closed := fun parent name child linked => by
    rw [child?_of_size_le (Nat.zero_le parent)] at linked
    cases linked
  loopless := fun node above => by
    obtain ⟨_, ⟨_, linked⟩, _⟩ := Relation.TransGen.head'_iff.mp above
    rw [child?_of_size_le (Nat.zero_le node)] at linked
    cases linked

end Graph

theorem Route.above_target {graph : Graph} (route : Route graph start names above target) :
    ∀ node ∈ above, graph.Above node target := by
  induction route with
  | here => exact fun _ member => absurd member List.not_mem_nil
  | @down node child target name names above linked rest ih =>
    intro passed member
    have first : graph.Links node child := ⟨name, linked⟩
    rcases List.mem_cons.mp member with rfl | later
    · cases rest with
      | here => exact .single first
      | down => exact .head first (ih _ List.mem_cons_self)
    · exact ih passed later

end CoupledFs
