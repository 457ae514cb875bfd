import CoupledFs.Proofs.Growth
import CoupledFs.Proofs.LockDiscipline
import Mathlib.Data.List.Nodup

/-! Locks are not reentrant: whoever asks for the lock of a node that he has locked already may wait
for ever. No traversal does so as long as no directory can be reached from itself, and that depends
on how the graph was put together. -/

namespace CoupledFs

/-- The node whose lock a step asks for. -/
def LockStep.request? : LockStep → Option NodeId
  | await node | acquire node _ => some node
  | lookUp _ | operate _ | release .. => none

namespace LockTable

/-- Whether none of the steps asks for a lock on a node that is locked by then. -/
def AsksApart (table : LockTable) : List LockStep → Prop
  | [] => True
  | step :: steps =>
    (∀ node ∈ step.request?, table.mode? node = none) ∧ (table.after step).AsksApart steps

theorem asksApart_append (table : LockTable) (first rest : List LockStep) :
    table.AsksApart (first ++ rest) ↔
      table.AsksApart first ∧ (table.afterAll first).AsksApart rest := by
  induction first generalizing table with
  | nil =>
    rw [AsksApart, true_and]
    rfl
  | cons step first ih =>
    rw [List.cons_append, AsksApart, AsksApart, ih, and_assoc]
    rfl

theorem mode?_eq_none_iff {table : LockTable} :
    table.mode? node = none ↔ ∀ mode, (node, mode) ∉ table.holds := by
  constructor
  · intro free mode held
    unfold mode? at free
    split at free
    · cases free
    · rename_i unwritten
      split at free
      · cases free
      · rename_i unread
        cases mode with
        | read => exact unread held
        | write => exact unwritten held
  · intro free
    simp [mode?, free]

theorem asksApart_passing (table : LockTable) (above : List NodeId) :
    table.AsksApart (passing above) ↔
      above.Nodup ∧ ∀ node ∈ above, table.mode? node = none := by
  induction above generalizing table with
  | nil => simp [passing, AsksApart]
  | cons node above ih =>
    have entered : table.AsksApart (passing (node :: above)) ↔
        table.mode? node = none ∧ (table.after (.acquire node .read)).AsksApart (passing above) := by
      simp [passing, AsksApart, LockStep.request?, after]
    have taken (other : NodeId) : (table.after (.acquire node .read)).mode? other = none ↔
        other ≠ node ∧ table.mode? other = none := by
      simp only [mode?_eq_none_iff, after, List.mem_cons, not_or, Prod.mk.injEq, not_and]
      constructor
      · intro free
        exact ⟨fun same => (free .read).1 same rfl, fun mode => (free mode).2⟩
      · intro free mode
        exact ⟨fun same _ => free.1 same, free.2 mode⟩
    rw [entered, ih, List.nodup_cons]
    simp only [taken, List.forall_mem_cons]
    constructor
    · intro apart
      exact ⟨⟨fun member => (apart.2.2 node member).1 rfl, apart.2.1⟩, apart.1,
        fun other member => (apart.2.2 other member).2⟩
    · intro apart
      refine ⟨apart.2.1, apart.1.2, fun other member => ⟨?_, apart.2.2 other member⟩⟩
      intro same
      exact apart.1.1 (same ▸ member)

theorem asksApart_claiming (table : LockTable) (target : NodeId) (mode : LockMode) :
    table.AsksApart (claiming target mode) ↔ table.mode? target = none := by
  cases mode with
  | read => simp [claiming, AsksApart, LockStep.request?]
  | write =>
    have kept : (table.after (.await target)).mode? target = table.mode? target := rfl
    simp [claiming, AsksApart, LockStep.request?, kept]

theorem asksApart_of_requests (table : LockTable)
    (idle : steps.filterMap LockStep.request? = []) : table.AsksApart steps := by
  induction steps generalizing table with
  | nil => trivial
  | cons step steps ih =>
    cases asked : step.request? with
    | none =>
      rw [List.filterMap_cons_none asked] at idle
      refine ⟨fun node member => ?_, ih _ idle⟩
      rw [asked] at member
      cases member
    | some node =>
      rw [List.filterMap_cons_some asked] at idle
      cases idle

end LockTable

theorem requests_releasing (locks : List (NodeId × LockMode)) :
    (releasing locks).filterMap LockStep.request? = [] := by
  simp [releasing, LockStep.request?, List.filterMap_eq_nil_iff]

theorem Route.visited_of_stop {graph : Graph} (route : Route graph start front above node)
    (stop : graph.child? node name = none) (rest : List String) :
    graph.visited start (front ++ name :: rest) = above ++ [node] := by
  induction route with
  | here => simp [Graph.visited, stop]
  | down linked _ ih => simp [Graph.visited, linked, ih stop]

namespace Traversal

variable {α : Type} {graph : Graph}

/-- Whenever the traversal asks for the lock of a node, it holds none on that node. -/
def LocksApart (t : Traversal α) (graph : Graph) : Prop :=
  LockTable.AsksApart {} (t.run graph).steps

theorem mode?_readLocks : LockTable.mode? ⟨readLocks held, []⟩ node = none ↔ node ∉ held := by
  rw [LockTable.mode?_eq_none_iff]
  constructor
  · intro free member
    exact free .read (List.mem_map_of_mem member)
  · intro apart mode locked
    obtain ⟨other, member, same⟩ := List.mem_map.mp locked
    cases same
    exact apart member

theorem locksApart_iff (t : Traversal α) (graph : Graph) :
    t.LocksApart graph ↔ (graph.visited t.start t.path.segments).Nodup := by
  have passed (above : List NodeId) :
      LockTable.AsksApart {} (passing above) ↔ above.Nodup := by
    rw [LockTable.asksApart_passing]
    exact and_iff_left fun _ _ => rfl
  unfold LocksApart
  rcases Route.exists_or_stop graph t.start t.path.segments with
    ⟨above, target, route⟩ | ⟨front, name, rest, above, node, split, route, stop⟩
  · have left : LockTable.AsksApart ⟨(target, t.mode) :: readLocks above.reverse, []⟩
        (.operate target :: releasing ((target, t.mode) :: readLocks above.reverse)) :=
      LockTable.asksApart_of_requests _ (requests_releasing _)
    have last : (above ++ [target]).Nodup ↔ above.Nodup ∧ target ∉ above := by
      rw [← List.nodup_reverse, List.reverse_concat, List.nodup_cons, List.nodup_reverse,
        List.mem_reverse, and_comm]
    rw [t.steps_of_route route, route.visited, last, LockTable.asksApart_append, passed,
      afterAll_passing, LockTable.asksApart_append, LockTable.asksApart_claiming,
      afterAll_claiming, List.append_nil, mode?_readLocks, List.mem_reverse, and_iff_left left]
  · have left : LockTable.AsksApart ⟨readLocks (above ++ [node]).reverse, []⟩
        (releasing (readLocks (above ++ [node]).reverse)) :=
      LockTable.asksApart_of_requests _ (requests_releasing _)
    rw [t.steps_of_stop split route stop, split, route.visited_of_stop stop,
      LockTable.asksApart_append, passed, afterAll_passing, List.append_nil]
    exact and_iff_left left

end Traversal

namespace Graph

variable {graph other : Graph} {directory child : NodeId}

def Loopless (graph : Graph) : Prop :=
  ∀ node, ¬ graph.Above node node

theorem Above.exists_route (above : graph.Above upper lower) :
    ∃ names passed, Route graph upper names (upper :: passed) lower := by
  induction above with
  | single linked =>
    obtain ⟨name, linked⟩ := linked
    exact ⟨[name], [], .down linked (.here _)⟩
  | @tail node _ _ linked ih =>
    obtain ⟨name, linked⟩ := linked
    obtain ⟨names, passed, route⟩ := ih
    exact ⟨names ++ [name], passed ++ [node], route.concat linked⟩

theorem eq_or_above_of_mem_visited {start node : NodeId} (member : node ∈ graph.visited start names) :
    node = start ∨ graph.Above start node := by
  induction names generalizing start with
  | nil => exact .inl (List.mem_singleton.mp member)
  | cons name names ih =>
    rw [visited, List.mem_cons] at member
    rcases member with same | later
    · exact .inl same
    · cases linked : graph.child? start name with
      | none =>
        rw [linked] at later
        cases later
      | some child =>
        rw [linked] at later
        have first : graph.Links start child := ⟨name, linked⟩
        rcases ih later with same | below
        · rw [same]
          exact .inr (.single first)
        · exact .inr (.head first below)

theorem Loopless.nodup_visited (loopless : graph.Loopless) (start : NodeId)
    (names : List String) : (graph.visited start names).Nodup := by
  induction names generalizing start with
  | nil => exact List.nodup_singleton start
  | cons name names ih =>
    rw [visited, List.nodup_cons]
    cases linked : graph.child? start name with
    | none => exact ⟨List.not_mem_nil, List.nodup_nil⟩
    | some child =>
      refine ⟨?_, ih child⟩
      intro again
      have first : graph.Links start child := ⟨name, linked⟩
      apply loopless start
      rcases eq_or_above_of_mem_visited again with same | below
      · rw [← same] at first
        exact .single first
      · exact .head first below

/-- In a graph where some directory is below itself, and in no other, there is a traversal that comes
back to a node that it has locked. -/
theorem loopless_iff {α : Type} :
    graph.Loopless ↔ ∀ t : Traversal α, t.LocksApart graph := by
  constructor
  · intro loopless t
    apply (t.locksApart_iff graph).mpr
    exact loopless.nodup_visited _ _
  · intro apart node above
    obtain ⟨names, passed, route⟩ := above.exists_route
    have named : names ≠ [] := by
      intro none
      subst names
      cases route
    let t : Traversal α :=
      { mode := .read
        start := node
        path := .element ⟨none, names, '/', named⟩
        work := fun _ graph => ⟨.error .readOnly, graph, []⟩ }
    have distinct : (graph.visited node names).Nodup := (t.locksApart_iff graph).mp (apart t)
    rw [route.visited] at distinct
    exact (List.nodup_cons.mp distinct).1 (by simp)

theorem Loopless.congr (loopless : graph.Loopless)
    (same : ∀ id name, other.child? id name = graph.child? id name) : other.Loopless := by
  have carried (upper lower : NodeId) (linked : other.Links upper lower) :
      graph.Links upper lower := by
    obtain ⟨name, linked⟩ := linked
    exact ⟨name, (same upper name).symm.trans linked⟩
  intro node above
  exact loopless node (Relation.TransGen.mono carried _ _ above)

theorem child?_link (isDirectory : (graph.node directory).isDirectory = true)
    (free : graph.child? directory name = none) (child id : NodeId) (other : String) :
    (graph.link directory name child).child? id other =
      if id = directory ∧ other = name then some child else graph.child? id other := by
  unfold child?
  rw [node_link]
  by_cases same : id = directory
  · subst id
    simp [Node.child?_link isDirectory free]
  · simp [same]

/-- The directory is the node itself, or below it, so that a link from the directory to the node
closes a loop. -/
def Closes (graph : Graph) (directory child : NodeId) : Prop :=
  Relation.ReflTransGen graph.Links child directory

section Link

variable {name : String} (isDirectory : (graph.node directory).isDirectory = true)
  (free : graph.child? directory name = none)

include isDirectory free

theorem links_link (upper lower : NodeId) :
    (graph.link directory name child).Links upper lower ↔
      graph.Links upper lower ∨ upper = directory ∧ lower = child := by
  constructor
  · intro linked
    obtain ⟨other, linked⟩ := linked
    rw [child?_link isDirectory free] at linked
    split at linked
    · rename_i here
      cases linked
      exact .inr ⟨here.1, rfl⟩
    · exact .inl ⟨other, linked⟩
  · intro either
    rcases either with old | new
    · obtain ⟨other, old⟩ := old
      refine ⟨other, ?_⟩
      rw [child?_link isDirectory free, if_neg, old]
      intro here
      rw [here.1, here.2, free] at old
      cases old
    · refine ⟨name, ?_⟩
      rw [child?_link isDirectory free, if_pos ⟨new.1, rfl⟩, new.2]

/-- A way down that the new link makes goes through the new link. -/
theorem above_link (above : (graph.link directory name child).Above upper lower) :
    graph.Above upper lower ∨
      Relation.ReflTransGen graph.Links upper directory ∧
        Relation.ReflTransGen graph.Links child lower := by
  induction above with
  | single linked =>
    rcases (links_link isDirectory free _ _).mp linked with old | new
    · exact .inl (.single old)
    · rw [new.1, new.2]
      exact .inr ⟨.refl, .refl⟩
  | tail _ linked ih =>
    rcases (links_link isDirectory free _ _).mp linked with old | new
    · rcases ih with below | through
      · exact .inl (below.tail old)
      · exact .inr ⟨through.1, through.2.tail old⟩
    · rw [new.1] at ih
      rw [new.2]
      rcases ih with below | through
      · exact .inr ⟨below.to_reflTransGen, .refl⟩
      · exact .inr ⟨through.1, .refl⟩

/-- A link makes a loop if and only if it leads back to where it starts. -/
theorem loopless_link_iff :
    (graph.link directory name child).Loopless ↔
      graph.Loopless ∧ ¬ graph.Closes directory child := by
  have kept (upper lower : NodeId) (old : graph.Links upper lower) :
      (graph.link directory name child).Links upper lower :=
    (links_link isDirectory free upper lower).mpr (.inl old)
  have new : (graph.link directory name child).Links directory child :=
    (links_link isDirectory free directory child).mpr (.inr ⟨rfl, rfl⟩)
  constructor
  · intro loopless
    constructor
    · intro node above
      exact loopless node (Relation.TransGen.mono kept _ _ above)
    · intro closes
      exact loopless directory (.head' new (Relation.ReflTransGen.mono kept _ _ closes))
  · intro apart node above
    rcases above_link isDirectory free above with old | through
    · exact apart.1 node old
    · exact apart.2 (through.2.trans through.1)

end Link

end Graph

/-- A call that links a node, and the graph that it finds. -/
structure LinkCall where
  graph : Graph
  directory : NodeId
  child : NodeId

def LinkCall.Closes (call : LinkCall) : Prop :=
  call.graph.Closes call.directory call.child

/-- Graphs put together by making nodes and by calls that link one of them under a name of another,
the calls being listed in their order. -/
inductive Graph.Assembled : List LinkCall → Graph → Prop where
  | empty (clock : Int) : Assembled [] { clock := clock }
  | later {calls : List LinkCall} {graph : Graph} (before : Assembled calls graph) (clock : Int) :
      Assembled calls { graph with clock := clock }
  | directory {calls : List LinkCall} {graph : Graph} (before : Assembled calls graph)
      (mode : UInt32) (ownership : Option Ownership) :
      Assembled calls (graph.add (.newDirectory · mode ownership)).1
  | file {calls : List LinkCall} {graph : Graph} (before : Assembled calls graph)
      (mode : UInt32) (ownership : Option Ownership) :
      Assembled calls (graph.add (.newFile · mode ownership)).1
  | symlink {calls : List LinkCall} {graph : Graph} (before : Assembled calls graph)
      (target : String) (ownership : Option Ownership) :
      Assembled calls (graph.add (.newSymlink · target ownership)).1
  | link {calls : List LinkCall} {graph after : Graph} {directory child : NodeId} {name : String}
      (before : Assembled calls graph) (made : child < graph.size)
      (linked : graph.addChild directory name child = .ok after) :
      Assembled (calls ++ [⟨graph, directory, child⟩]) after

namespace Graph

variable {graph after : Graph} {directory child : NodeId} {calls : List LinkCall}

theorem addChild_eq_ok_iff :
    graph.addChild directory name child = .ok after ↔
      (graph.node directory).isDirectory = true ∧ graph.child? directory name = none ∧
        after = graph.link directory name child := by
  unfold addChild
  constructor
  · intro linked
    cases linkable : (graph.node directory).linkable name with
    | error error =>
      rw [linkable] at linked
      cases linked
    | ok done =>
      obtain ⟨isDirectory, free⟩ := Node.linkable_eq_ok_iff.mp linkable
      rw [linkable] at linked
      cases linked
      exact ⟨isDirectory, free, rfl⟩
  · intro allowed
    obtain ⟨isDirectory, free, same⟩ := allowed
    rw [Node.linkable_eq_ok_iff.mpr ⟨isDirectory, free⟩, same]
    rfl

theorem loopless_add_iff {make : Int → Node} (childless : (make graph.clock).children = []) :
    (graph.add make).1.Loopless ↔ graph.Loopless := by
  have same := child?_add childless
  constructor
  · intro loopless
    exact loopless.congr fun id name => (same id name).symm
  · intro loopless
    exact loopless.congr same

/-- A graph has a loop if and only if one of the calls that linked its nodes closed one. -/
theorem Assembled.loopless_iff (assembled : Assembled calls graph) :
    graph.Loopless ↔ ∀ call ∈ calls, ¬ call.Closes := by
  induction assembled with
  | empty clock =>
    have loopless : ({ clock := clock } : Graph).Loopless :=
      treelike_empty.loopless
    exact ⟨fun _ _ member => absurd member List.not_mem_nil, fun _ => loopless⟩
  | later _ _ ih => exact ih
  | directory _ _ _ ih => exact (loopless_add_iff rfl).trans ih
  | file _ _ _ ih => exact (loopless_add_iff rfl).trans ih
  | symlink _ _ _ ih => exact (loopless_add_iff rfl).trans ih
  | @link calls graph after directory child name _ _ linked ih =>
    obtain ⟨isDirectory, free, same⟩ := addChild_eq_ok_iff.mp linked
    rw [same, loopless_link_iff isDirectory free, ih, List.forall_mem_append,
      List.forall_mem_singleton]
    rfl

/-- However nodes were made and linked: no traversal asks for a lock that it holds already, from
whatever node, along whatever path and in whichever mode, if and only if no node was ever linked in
itself or in a directory below it. -/
theorem locks_apart_iff_no_call_closes {α : Type} (assembled : Assembled calls graph) :
    (∀ t : Traversal α, t.LocksApart graph) ↔ ∀ call ∈ calls, ¬ call.Closes :=
  Graph.loopless_iff.symm.trans assembled.loopless_iff

/-- A directory that is linked twice in another one. -/
theorem locks_apart_in_shared_directory :
    let made : Graph := { nodes := #[.newDirectory 0 0o755 none, .newDirectory 0 0o755 none] }
    let once := made.link 0 "a" 1
    let twice := once.link 0 "b" 1
    Assembled [⟨made, 0, 1⟩, ⟨once, 0, 1⟩] twice ∧ ∀ t : Traversal Unit, t.LocksApart twice := by
  intro made once twice
  have first : Assembled [] made := .directory (.directory (.empty 0) 0o755 none) 0o755 none
  have second : Assembled ([] ++ [⟨made, 0, 1⟩]) once :=
    .link first (by decide) (addChild_eq_ok_iff.mpr ⟨rfl, rfl, rfl⟩)
  have third : Assembled ([⟨made, 0, 1⟩] ++ [⟨once, 0, 1⟩]) twice :=
    .link second (by decide) (addChild_eq_ok_iff.mpr ⟨rfl, rfl, rfl⟩)
  have apart {graph : Graph} (empty : ∀ name, graph.child? 1 name = none) :
      ¬ graph.Closes 0 1 := by
    intro closes
    rcases closes.cases_head with same | ⟨_, linked, _⟩
    · cases same
    · obtain ⟨name, linked⟩ := linked
      rw [empty] at linked
      cases linked
  refine ⟨third, (locks_apart_iff_no_call_closes third).mpr ?_⟩
  intro call member
  rcases List.mem_cons.mp member with rfl | last
  · exact apart fun _ => rfl
  · rw [List.mem_singleton.mp last]
    exact apart fun _ => rfl

/-- A directory that is linked in itself is locked twice on the way through that link, and a writer
waits there for himself. -/
theorem locks_twice_below_itself :
    let made : Graph := { nodes := #[.newDirectory 0 0o755 none] }
    let graph := made.link 0 "s" 0
    let reader : Traversal Unit :=
      { mode := .read, start := 0, path := .element ⟨some ⟨"/", '/'⟩, ["s"], '/', by simp⟩
        work := fun _ graph => ⟨.ok (), graph, []⟩ }
    let writer := { reader with mode := .write }
    Assembled [⟨made, 0, 0⟩] graph ∧ ¬ reader.LocksApart graph ∧ ¬ writer.LocksApart graph ∧
      LockTable.permitsAll {} (writer.run graph).steps = false := by
  intro made graph reader writer
  have first : Assembled [] made := .directory (.empty 0) 0o755 none
  have second : Assembled ([] ++ [⟨made, 0, 0⟩]) graph :=
    .link first (by decide) (addChild_eq_ok_iff.mpr ⟨rfl, rfl, rfl⟩)
  have again : ¬ (graph.visited 0 ["s"]).Nodup := by decide
  have route : Route graph 0 ["s"] [0] 0 := .down rfl (.here 0)
  refine ⟨second, ?_, ?_, ?_⟩
  · exact fun apart => again ((reader.locksApart_iff graph).mp apart)
  · exact fun apart => again ((writer.locksApart_iff graph).mp apart)
  · rw [writer.steps_of_route route]
    rfl

end Graph

end CoupledFs
