import CoupledFs.Proofs.LockDiscipline

/-! A traversal finds what looking up the names of its path one after the other finds: the node that
the last of them leads to, or the first node on the way that does not have the next name. -/

namespace CoupledFs

namespace Graph

variable {graph : Graph} {start node node' : NodeId}

/-- The node that one has come to after looking up so many of the names, each in the node that the
one before it led to. -/
def station? (graph : Graph) (start : NodeId) (names : List String) : Nat → Option NodeId
  | 0 => some start
  | depth + 1 => do
    let node ← graph.station? start names depth
    let name ← names[depth]?
    graph.child? node name

theorem station?_eq_resolve (within : depth ≤ names.length) :
    graph.station? start names depth = graph.resolve start (names.take depth) := by
  induction depth with
  | zero => rfl
  | succ depth ih =>
    have inside : depth < names.length := within
    rw [station?, ih (Nat.le_of_lt inside), List.take_succ_eq_append_getElem inside,
      resolve_concat, List.getElem?_eq_getElem inside]
    rfl

theorem station?_length : graph.station? start names names.length = graph.resolve start names := by
  rw [station?_eq_resolve (Nat.le_refl _), List.take_length]

theorem station?_isSome_of_le (here : (graph.station? start names depth).isSome)
    (before : earlier ≤ depth) : (graph.station? start names earlier).isSome := by
  induction before with
  | refl => exact here
  | step _ ih =>
    apply ih
    obtain ⟨node, found⟩ := Option.isSome_iff_exists.mp here
    obtain ⟨parent, above, _⟩ := Option.bind_eq_some_iff.mp found
    rw [above]
    rfl

/-- Looking up the names comes to `node` after `depth` of them, and no further. -/
structure Halts (graph : Graph) (start : NodeId) (names : List String) (depth : Nat)
    (node : NodeId) : Prop where
  within : depth < names.length
  reached : graph.station? start names depth = some node
  beyond : graph.station? start names (depth + 1) = none

theorem Halts.unique (halts : graph.Halts start names depth node)
    (other : graph.Halts start names depth' node') : depth = depth' ∧ node = node' := by
  have upto {d d' : Nat} {n n' : NodeId} (first : graph.Halts start names d n)
      (second : graph.Halts start names d' n') : d' ≤ d := by
    apply Nat.le_of_not_lt
    intro later
    have there : (graph.station? start names d').isSome := by simp [second.reached]
    have passed := station?_isSome_of_le there (Nat.succ_le_of_lt later)
    simp [first.beyond] at passed
  have same : depth = depth' := Nat.le_antisymm (upto other halts) (upto halts other)
  subst depth'
  exact ⟨rfl, Option.some.inj (halts.reached.symm.trans other.reached)⟩

theorem Halts.route (halts : graph.Halts start names depth node) :
    ∃ name above, names = names.take depth ++ name :: names.drop (depth + 1) ∧
      Route graph start (names.take depth) above node ∧ graph.child? node name = none ∧
      above.length = depth := by
  have within := halts.within
  have reached := halts.reached
  rw [station?_eq_resolve (Nat.le_of_lt within)] at reached
  obtain ⟨above, route⟩ := Route.of_resolve reached
  have beyond := halts.beyond
  rw [station?, halts.reached, List.getElem?_eq_getElem within] at beyond
  refine ⟨names[depth], above, ?_, route, beyond, ?_⟩
  · rw [← List.drop_eq_getElem_cons within, List.take_append_drop]
  · rw [route.length_above, List.length_take, Nat.min_eq_left (Nat.le_of_lt within)]

/-- Names are looked up to the last of them, or up to one that is missing. -/
theorem exists_station?_or_halts (graph : Graph) (start : NodeId) (names : List String) :
    (∃ target, graph.station? start names names.length = some target) ∨
      ∃ depth node, graph.Halts start names depth node := by
  rcases Route.exists_or_stop graph start names with
    ⟨above, target, route⟩ | ⟨front, name, rest, above, node, split, route, stop⟩
  · left
    exact ⟨target, station?_length.trans route.resolve⟩
  · right
    have within : front.length < names.length := by simp [split]
    have reached : graph.station? start names front.length = some node := by
      rw [station?_eq_resolve (Nat.le_of_lt within), split, List.take_left]
      exact route.resolve
    refine ⟨front.length, node, within, reached, ?_⟩
    have next : names[front.length]? = some name := by simp [split]
    rw [station?, reached, next]
    exact stop

end Graph

theorem Route.exists_station? {graph : Graph} (route : Route graph start names above target)
    (member : node ∈ above) :
    ∃ depth < names.length, graph.station? start names depth = some node := by
  suffices place : ∃ front name rest, names = front ++ name :: rest ∧
      graph.resolve start front = some node by
    obtain ⟨front, name, rest, split, reached⟩ := place
    have within : front.length < names.length := by simp [split]
    refine ⟨front.length, within, ?_⟩
    rw [Graph.station?_eq_resolve (Nat.le_of_lt within), split, List.take_left]
    exact reached
  induction route with
  | here => cases member
  | @down first child target name names above linked rest ih =>
    cases member with
    | head => exact ⟨[], name, names, rfl, rfl⟩
    | tail _ later =>
      obtain ⟨front, next, rest, split, reached⟩ := ih later
      refine ⟨name :: front, next, rest, by rw [split, List.cons_append], ?_⟩
      rw [Graph.resolve, linked]
      exact reached

/-- The refusal of a path that has neither a name to look up nor a root to stand for. -/
def Path.noDescent (path : Path) : FsError :=
  .invalidArgument (.other ("cannot descend along " ++ path.display))

namespace Traversal

variable {α : Type} {graph : Graph}

/-- What a traversal comes to, told by looking up the names of its path one after the other. -/
structure FollowsLookups (t : Traversal α) (graph : Graph) : Prop where
  /-- All names are found, or there is a first one that is not. -/
  outcome :
    (∃ target, graph.station? t.start t.path.segments t.path.segments.length = some target) ∨
      ∃ depth node, graph.Halts t.start t.path.segments depth node
  /-- When all are found, the work is done once, on the node that the last one leads to, and what it
  comes to is what the traversal comes to. -/
  arrives : ∀ target,
    graph.station? t.start t.path.segments t.path.segments.length = some target →
      (t.run graph).steps.filterMap LockStep.operation? = [target] ∧
      (t.run graph).answer = (t.work target graph).answer ∧
      (t.run graph).state = (t.work target graph).state
  /-- When one is not, nothing is done, and the error names the path down to the node where the
  lookup failed if that is not a directory, and down to the missing name if it is. -/
  stops : ∀ depth node, graph.Halts t.start t.path.segments depth node →
    (t.run graph).steps.filterMap LockStep.operation? = [] ∧
    (t.run graph).answer = .error
      (if (graph.node node).isDirectory then .noSuchFile (t.path.displayUpTo (depth + 1))
        else .notADirectory (t.path.displayUpTo depth)) ∧
    (t.run graph).state = graph
  /-- A bare root stands for the start. -/
  bare : ∀ root, t.path = .root root →
    (t.run graph).steps.filterMap LockStep.operation? = [t.start] ∧
    (t.run graph).answer = (t.work t.start graph).answer ∧
    (t.run graph).state = (t.work t.start graph).state
  /-- Every other path has a name to look up, so that no path is refused for the want of one. -/
  named : (∀ root, t.path ≠ .root root) → t.path.segments ≠ []
  descends : (t.run graph).answer = .error t.path.noDescent →
    ∃ target, graph.station? t.start t.path.segments t.path.segments.length = some target ∧
      (t.work target graph).answer = .error t.path.noDescent
  /-- A traversal that does not come back to its target on the way never waits for itself. -/
  unhindered : (∀ depth < t.path.segments.length,
      graph.station? t.start t.path.segments depth ≠
        graph.station? t.start t.path.segments t.path.segments.length) →
    LockTable.permitsAll {} (t.run graph).steps = true

theorem arrives_of_station? (t : Traversal α)
    (found : graph.station? t.start t.path.segments t.path.segments.length = some target) :
    (t.run graph).steps.filterMap LockStep.operation? = [target] ∧
      (t.run graph).answer = (t.work target graph).answer ∧
      (t.run graph).state = (t.work target graph).state := by
  rw [Graph.station?_length] at found
  obtain ⟨above, route⟩ := Route.of_resolve found
  exact ⟨t.operations_of_route route, Prod.mk.inj (t.outcome_of_route route)⟩

theorem stops_of_halts (t : Traversal α)
    (halts : graph.Halts t.start t.path.segments depth node) :
    (t.run graph).steps.filterMap LockStep.operation? = [] ∧
      (t.run graph).answer = .error (t.stopError graph node depth) ∧
      (t.run graph).state = graph := by
  obtain ⟨name, above, split, route, stop, same⟩ := halts.route
  have stopped := t.outcome_of_stop split route stop
  rw [same] at stopped
  exact ⟨t.operations_of_stop split route stop, Prod.mk.inj stopped⟩

/-- Nobody else holds a lock, so a traversal can only be hindered by itself. -/
theorem permitsAll_of_apart (t : Traversal α)
    (apart : ∀ depth < t.path.segments.length,
      graph.station? t.start t.path.segments depth ≠
        graph.station? t.start t.path.segments t.path.segments.length) :
    LockTable.permitsAll {} (t.run graph).steps = true := by
  have free : ∀ lock ∈ (t.run graph).steps.filterMap LockStep.acquisition?,
      LockTable.permits {} (.acquire lock.1 lock.2) = true := by
    intro lock _
    cases mode : lock.2 <;> simp [LockTable.permits]
  rcases Route.exists_or_stop graph t.start t.path.segments with
    ⟨above, target, route⟩ | ⟨front, name, rest, above, node, split, route, stop⟩
  · have fresh : target ∉ above := by
      intro member
      obtain ⟨depth, within, reached⟩ := route.exists_station? member
      apply apart depth within
      rw [reached, Graph.station?_length, route.resolve]
    exact (t.reaches_of_route {} route fresh).unhindered free
  · exact (t.stops_of_stop {} split route stop).unhindered free

/-- Whatever the graph, the start and the path: a traversal works on the node that looking up the
names one after the other leads to, and otherwise fails at the first of them that is not found. -/
theorem traversal_follows_lookups (t : Traversal α) (graph : Graph) : t.FollowsLookups graph := by
  refine ⟨graph.exists_station?_or_halts _ _, fun _ => t.arrives_of_station?,
    fun _ _ => t.stops_of_halts, ?bare, ?named, ?descends, t.permitsAll_of_apart⟩
  case bare =>
    intro root same
    apply t.arrives_of_station?
    rw [same]
    rfl
  case named =>
    cases path : t.path with
    | root root => exact fun unlike => absurd rfl (unlike root)
    | element element => exact fun _ => element.segments_ne_nil
  case descends =>
    intro refused
    rcases graph.exists_station?_or_halts t.start t.path.segments with
      ⟨target, found⟩ | ⟨depth, node, halts⟩
    · obtain ⟨_, answered, _⟩ := t.arrives_of_station? found
      exact ⟨target, found, answered.symm.trans refused⟩
    · obtain ⟨_, answered, _⟩ := t.stops_of_halts halts
      rw [refused, stopError] at answered
      split at answered <;> cases answered

/-- A reader that looks for `c` below the second name of a file. -/
theorem traversal_follows_lookups_to_shared_file :
    let graph : Graph :=
      { nodes := #[⟨.directory [("a", 1), ("b", 1)], .fresh 0, 0o755, none⟩,
          .newFile 0 0o644 none] }
    let t : Traversal Unit :=
      { mode := .read, start := 0, path := .element ⟨some ⟨"/", '/'⟩, ["b", "c"], '/', by simp⟩
        work := fun _ graph => ⟨.ok (), graph, []⟩ }
    graph.Halts t.start t.path.segments 1 1 ∧
      (t.run graph).steps.filterMap LockStep.operation? = [] ∧
      (t.run graph).answer = .error (.notADirectory "/b") ∧
      (t.run graph).state = graph :=
  have halts := ⟨by decide, rfl, rfl⟩
  ⟨halts, (traversal_follows_lookups _ _).stops 1 1 halts⟩

end Traversal

end CoupledFs
