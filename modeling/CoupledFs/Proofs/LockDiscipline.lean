import CoupledFs.Proofs.Outcome
import CoupledFs.Proofs.Route
import CoupledFs.Traversal

/-! What a traversal does with locks: it locks the ancestors of its target from the root down, works
on the target under its own lock, and gives everything back in reverse. -/

namespace CoupledFs

namespace LockStep

def acquisition? : LockStep → Option (NodeId × LockMode)
  | acquire node mode => some (node, mode)
  | await _ | lookUp _ | operate _ | release .. => none

def release? : LockStep → Option (NodeId × LockMode)
  | release node mode => some (node, mode)
  | await _ | acquire .. | lookUp _ | operate _ => none

def operation? : LockStep → Option NodeId
  | operate node => some node
  | await _ | acquire .. | lookUp _ | release .. => none

end LockStep

namespace LockTable

theorem afterAll_append (table : LockTable) (first rest : List LockStep) :
    table.afterAll (first ++ rest) = (table.afterAll first).afterAll rest :=
  List.foldl_append

theorem permitsAll_append (table : LockTable) (first rest : List LockStep) :
    table.permitsAll (first ++ rest) =
      (table.permitsAll first && (table.afterAll first).permitsAll rest) := by
  induction first generalizing table with
  | nil => rfl
  | cons step first ih =>
    simp only [List.cons_append, permitsAll, ih, Bool.and_assoc]
    rfl

/-- Steps without work are passed over on the way to the first work. -/
theorem atOperation?_append (table : LockTable) {first : List LockStep}
    (idle : first.filterMap LockStep.operation? = []) (rest : List LockStep) :
    table.atOperation? (first ++ rest) = (table.afterAll first).atOperation? rest := by
  induction first generalizing table with
  | nil => rfl
  | cons step first ih =>
    cases step with
    | operate node => simp [LockStep.operation?] at idle
    | await _ | acquire _ _ | lookUp _ | release _ _ => exact ih _ idle

/-- Locks that were taken last are given back first, which leaves what was there before. -/
theorem afterAll_release (others locks : List (NodeId × LockMode)) (awaited : List NodeId) :
    LockTable.afterAll ⟨locks ++ others, awaited⟩ (locks.map fun lock => .release lock.1 lock.2) =
      ⟨others, awaited⟩ := by
  induction locks with
  | nil => rfl
  | cons lock locks ih =>
    simp only [List.map_cons, List.cons_append, afterAll, List.foldl_cons, after,
      List.erase_cons_head]
    exact ih

theorem permits_read_iff {table : LockTable} :
    table.permits (.acquire node .read) = true ↔
      (node, .write) ∉ table.holds ∧ node ∉ table.awaited := by
  simp [permits]

theorem permits_write_iff {table : LockTable} :
    table.permits (.acquire node .write) = true ↔
      (node, .write) ∉ table.holds ∧ (node, .read) ∉ table.holds := by
  simp [permits]

theorem permitsAll_release (table : LockTable) (locks : List (NodeId × LockMode)) :
    table.permitsAll (locks.map fun lock => .release lock.1 lock.2) = true := by
  induction locks generalizing table with
  | nil => rfl
  | cons lock locks ih => exact ih _

end LockTable

/-- The locks on ancestors that have been passed, innermost first. -/
def readLocks (held : List NodeId) : List (NodeId × LockMode) :=
  held.map (·, .read)

/-- The steps past nodes on the way down. -/
def passing (above : List NodeId) : List LockStep :=
  above.flatMap fun node => [.acquire node .read, .lookUp node]

/-- The reports of the locks on nodes that lie below `depth` others. -/
def ancestorEvents (depth count : Nat) : List Log.Record :=
  (List.range' depth count).map fun depth => ⟨.ancestorLocked depth, none⟩

def claiming (target : NodeId) : LockMode → List LockStep
  | .read => [.acquire target .read]
  | .write => [.await target, .acquire target .write]

def releasing (locks : List (NodeId × LockMode)) : List LockStep :=
  locks.map fun lock => .release lock.1 lock.2

section Steps

@[simp]
theorem acquisitions_passing (above : List NodeId) :
    (passing above).filterMap LockStep.acquisition? = readLocks above := by
  induction above with
  | nil => rfl
  | cons node above ih => exact congrArg _ ih

@[simp]
theorem releases_passing (above : List NodeId) :
    (passing above).filterMap LockStep.release? = [] := by
  induction above with
  | nil => rfl
  | cons node above ih => exact ih

@[simp]
theorem operations_passing (above : List NodeId) :
    (passing above).filterMap LockStep.operation? = [] := by
  induction above with
  | nil => rfl
  | cons node above ih => exact ih

@[simp]
theorem acquisitions_claiming (target : NodeId) (mode : LockMode) :
    (claiming target mode).filterMap LockStep.acquisition? = [(target, mode)] := by
  cases mode <;> rfl

@[simp]
theorem releases_claiming (target : NodeId) (mode : LockMode) :
    (claiming target mode).filterMap LockStep.release? = [] := by
  cases mode <;> rfl

@[simp]
theorem operations_claiming (target : NodeId) (mode : LockMode) :
    (claiming target mode).filterMap LockStep.operation? = [] := by
  cases mode <;> rfl

@[simp]
theorem acquisitions_releasing (locks : List (NodeId × LockMode)) :
    (releasing locks).filterMap LockStep.acquisition? = [] := by
  simp [releasing, LockStep.acquisition?, List.filterMap_eq_nil_iff]

@[simp]
theorem releases_releasing (locks : List (NodeId × LockMode)) :
    (releasing locks).filterMap LockStep.release? = locks := by
  simp [releasing, List.filterMap_map, Function.comp_def, LockStep.release?]

@[simp]
theorem operations_releasing (locks : List (NodeId × LockMode)) :
    (releasing locks).filterMap LockStep.operation? = [] := by
  simp [releasing, LockStep.operation?, List.filterMap_eq_nil_iff]

theorem afterAll_passing (table : LockTable) (above : List NodeId) :
    table.afterAll (passing above) =
      { table with holds := readLocks above.reverse ++ table.holds } := by
  induction above generalizing table with
  | nil => rfl
  | cons node above ih =>
    have rest := ih { table with holds := (node, .read) :: table.holds }
    simpa [passing, readLocks, LockTable.afterAll, LockTable.after] using rest

theorem afterAll_claiming (table : LockTable) (target : NodeId) (mode : LockMode) :
    table.afterAll (claiming target mode) =
      { table with holds := (target, mode) :: table.holds } := by
  cases mode <;> simp [claiming, LockTable.afterAll, LockTable.after]

/-- Readers do not hinder one another. -/
theorem permitsAll_passing {table : LockTable}
    (free : ∀ node ∈ above, table.permits (.acquire node .read) = true) :
    table.permitsAll (passing above) = true := by
  induction above generalizing table with
  | nil => rfl
  | cons node above ih =>
    have first := free node (by simp)
    have rest : (table.after (.acquire node .read)).permitsAll (passing above) = true := by
      apply ih
      intro other member
      have kept := LockTable.permits_read_iff.mp (free other (by simp [member]))
      apply LockTable.permits_read_iff.mpr
      simpa [LockTable.after] using kept
    exact Bool.and_eq_true_iff.mpr ⟨first, rest⟩

/-- Nobody who has locked other nodes for reading hinders himself in locking a target. -/
theorem permitsAll_claiming (table : LockTable) (held : List NodeId) (apart : target ∉ held)
    (free : table.permits (.acquire target mode) = true) :
    LockTable.permitsAll { table with holds := readLocks held ++ table.holds }
      (claiming target mode) = true := by
  cases mode with
  | read =>
    obtain ⟨unwritten, unasked⟩ := LockTable.permits_read_iff.mp free
    simp [claiming, LockTable.permitsAll, LockTable.permits, readLocks, unwritten, unasked]
  | write =>
    obtain ⟨unwritten, unread⟩ := LockTable.permits_write_iff.mp free
    simp [claiming, LockTable.permitsAll, LockTable.permits, LockTable.after, readLocks, unwritten,
      unread, apart]

end Steps

/-- What a traversal leaves behind, with the steps and the records of its trace told apart. -/
structure Trail (α : Type) where
  steps : List LockStep
  log : List Log.Record
  outcome : Except FsError α × Graph

section Trail

variable {α : Type}

def Trail.behind (trail : Trail α) (steps : List LockStep) (log : List Log.Record) : Trail α :=
  { trail with steps := steps ++ trail.steps, log := log ++ trail.log }

def Reply.trail (reply : Reply Graph α) : Trail α where
  steps := reply.steps
  log := reply.log
  outcome := reply.outcome

theorem Reply.trail_behind (reply : Reply Graph α) (lock : LockStep) (log : List Log.Record) :
    (reply.behind (.lock lock :: log.map .record)).trail = reply.trail.behind [lock] log := by
  have locked : (Deed.lock lock :: log.map .record).filterMap Deed.step? = [lock] := by
    simp [Deed.step?, Function.comp_def]
  have recorded : (Deed.lock lock :: log.map .record).filterMap Deed.record? = log := by
    simp [List.filterMap_cons, Deed.record?, Function.comp_def]
  rw [trail, steps_behind, log_behind, locked, recorded]
  rfl

end Trail

namespace Traversal

variable {α : Type} {graph : Graph}

theorem runFrom_step {t : Traversal α} {stage : Stage α}
    (moved : t.turn graph stage = .step lock next graph' log) :
    (t.runFrom graph stage).trail = (t.runFrom graph' next).trail.behind [lock] log := by
  rw [← Reply.trail_behind, runFrom]
  split
  · rename_i done
    rw [moved] at done
    cases done
  · rename_i step
    rw [moved] at step
    cases step
    rfl

theorem runFrom_leaving (t : Traversal α) (graph : Graph) (locks : List (NodeId × LockMode))
    (answer : Except FsError α) :
    (t.runFrom graph (.leaving locks answer)).trail = ⟨releasing locks, [], answer, graph⟩ := by
  induction locks with
  | nil =>
    rw [runFrom]
    rfl
  | cons lock locks ih =>
    rw [runFrom_step rfl, ih]
    rfl

theorem lookUp_of_child? (t : Traversal α) (linked : graph.child? node name = some child)
    (held : List NodeId) (names : List String) :
    t.lookUp graph held node name names = .toward (node :: held) child names := by
  simp [lookUp, Graph.isDirectory_of_child? linked, linked]

/-- The error of a lookup that fails below `depth` others. -/
def stopError (t : Traversal α) (graph : Graph) (node : NodeId) (depth : Nat) : FsError :=
  if (graph.node node).isDirectory then .noSuchFile (t.path.displayUpTo (depth + 1))
  else .notADirectory (t.path.displayUpTo depth)

theorem lookUp_of_stop (t : Traversal α) (stop : graph.child? node name = none)
    (held : List NodeId) (names : List String) :
    t.lookUp graph held node name names =
      .leaving (readLocks (node :: held)) (.error (t.stopError graph node held.length)) := by
  unfold lookUp stopError readLocks
  split <;> simp [stop]

theorem runFrom_down (t : Traversal α) (linked : graph.child? node name = some child)
    (held : List NodeId) (names : List String) :
    (t.runFrom graph (.toward held node (name :: names))).trail =
      (t.runFrom graph (.toward (node :: held) child names)).trail.behind
        [.acquire node .read, .lookUp node] [⟨.ancestorLocked held.length, none⟩] := by
  have entered : t.turn graph (.toward held node (name :: names)) =
      .step (.acquire node .read) (.looking held node name names) graph
        [⟨.ancestorLocked held.length, none⟩] := rfl
  have looked : t.turn graph (.looking held node name names) =
      .step (.lookUp node) (.toward (node :: held) child names) graph [] := by
    rw [turn, t.lookUp_of_child? linked]
  rw [runFrom_step entered, runFrom_step looked]
  rfl

/-- Passing the nodes of a route only takes locks, and leads to the end of the route. -/
theorem runFrom_route (t : Traversal α) (route : Route graph node front above stop)
    (held : List NodeId) (rest : List String) :
    (t.runFrom graph (.toward held node (front ++ rest))).trail =
      (t.runFrom graph (.toward (above.reverse ++ held) stop rest)).trail.behind (passing above)
        (ancestorEvents held.length above.length) := by
  induction route generalizing held with
  | here => simp [passing, ancestorEvents, Trail.behind]
  | @down node child stop name front above linked _ ih =>
    rw [List.cons_append, t.runFrom_down linked, ih]
    simp [passing, ancestorEvents, Trail.behind, List.range'_succ]

/-- The report of the lock on a target that lies below `depth` nodes. A bare root has none. -/
def targetEvents (t : Traversal α) (depth : Nat) : List Log.Record :=
  if t.path.segments.isEmpty then [] else [⟨.targetLocked depth t.mode, none⟩]

theorem runFrom_arriving (t : Traversal α) (graph : Graph) (held : List NodeId)
    (target : NodeId) :
    (t.runFrom graph (.arriving held target)).trail =
      (t.runFrom graph (.working held target)).trail.behind (claiming target t.mode)
        (t.targetEvents held.length) := by
  cases mode : t.mode with
  | read =>
    have locked : t.turn graph (.arriving held target) = t.lockTarget graph held target := by
      rw [turn, mode]
    rw [runFrom_step locked, targetEvents, mode]
    rfl
  | write =>
    have asked : t.turn graph (.arriving held target) =
        .step (.await target) (.waiting held target) graph [] := by
      rw [turn, mode]
    have locked : t.turn graph (.waiting held target) = t.lockTarget graph held target := rfl
    rw [runFrom_step asked, runFrom_step locked, targetEvents, mode]
    rfl

theorem run_of_route (t : Traversal α)
    (route : Route graph t.start t.path.segments above target) :
    (t.run graph).trail =
      { steps := passing above ++ (claiming target t.mode ++
          .operate target :: releasing ((target, t.mode) :: readLocks above.reverse))
        log := ancestorEvents 0 above.length ++ (t.targetEvents above.length ++
          (t.work target graph).log)
        outcome := (t.work target graph).outcome } := by
  have passed := t.runFrom_route route [] []
  rw [List.append_nil, List.append_nil] at passed
  have worked : t.turn graph (.working above.reverse target) =
      .step (.operate target)
        (.leaving ((target, t.mode) :: readLocks above.reverse) (t.work target graph).answer)
        (t.work target graph).state (t.work target graph).log := rfl
  rw [run, begin, passed, Stage.toward, runFrom_arriving, runFrom_step worked, runFrom_leaving]
  simp [Trail.behind, Reply.outcome]

theorem run_of_stop (t : Traversal α) (names : t.path.segments = front ++ name :: rest)
    (route : Route graph t.start front above node) (stop : graph.child? node name = none) :
    (t.run graph).trail =
      { steps := passing (above ++ [node]) ++ releasing (readLocks (above ++ [node]).reverse)
        log := ancestorEvents 0 (above.length + 1)
        outcome := (.error (t.stopError graph node above.length), graph) } := by
  have passed := t.runFrom_route route [] (name :: rest)
  rw [List.append_nil] at passed
  have entered : t.turn graph (.toward above.reverse node (name :: rest)) =
      .step (.acquire node .read) (.looking above.reverse node name rest) graph
        [⟨.ancestorLocked above.reverse.length, none⟩] := rfl
  have looked : t.turn graph (.looking above.reverse node name rest) =
      .step (.lookUp node) (.leaving (readLocks (node :: above.reverse))
        (.error (t.stopError graph node above.reverse.length))) graph [] := by
    rw [turn, t.lookUp_of_stop stop]
  rw [run, begin, names, passed, runFrom_step entered, runFrom_step looked, runFrom_leaving]
  simp [Trail.behind, passing, ancestorEvents, List.range'_concat]

/-- What a traversal does with locks when its path leads to `target` past the nodes `above`, begun
while `table` holds the locks of others. -/
structure Reaches (t : Traversal α) (graph : Graph) (table : LockTable) (above : List NodeId)
    (target : NodeId) : Prop where
  /-- There is an ancestor at each depth down to the target. -/
  depth : above.length = t.path.segments.length
  /-- The work is done once, on the target. -/
  worked : (t.run graph).steps.filterMap LockStep.operation? = [target]
  /-- While it is done, the target is locked in the requested mode and every ancestor for reading,
  and nothing else is locked that others have not locked. -/
  during : table.atOperation? (t.run graph).steps =
    some { table with holds := (target, t.mode) :: readLocks above.reverse ++ table.holds }
  /-- No lock shadows another. -/
  modes : table.holds = [] → ∀ during ∈ table.atOperation? (t.run graph).steps, ∀ node,
    during.mode? node =
      if node = target then some t.mode else if node ∈ above then some .read else none
  /-- Locks are taken from the root down. -/
  acquired : (t.run graph).steps.filterMap LockStep.acquisition? =
    readLocks above ++ [(target, t.mode)]
  /-- Each lock is reported with its depth, and that of a bare root is not. -/
  reported : (t.run graph).log =
    (List.range t.path.segments.length).map (⟨.ancestorLocked ·, none⟩) ++
      (if t.path.segments = [] then []
        else [⟨.targetLocked t.path.segments.length t.mode, none⟩]) ++ (t.work target graph).log
  /-- Locks are given back in the reverse order. -/
  released : (t.run graph).steps.filterMap LockStep.release? =
    ((t.run graph).steps.filterMap LockStep.acquisition?).reverse
  /-- Every lock ends up in the state that it was in before. -/
  restored : table.afterAll (t.run graph).steps = table
  /-- Whatever the work comes to is what the traversal comes to. -/
  answered : (t.run graph).answer = (t.work target graph).answer ∧
    (t.run graph).state = (t.work target graph).state
  /-- The traversal has to wait for others only, and never for itself. -/
  unhindered : (∀ lock ∈ (t.run graph).steps.filterMap LockStep.acquisition?,
    table.permits (.acquire lock.1 lock.2) = true) → table.permitsAll (t.run graph).steps = true

/-- What a traversal does with locks when its path stops at `node`, past the nodes `above`. -/
structure Stops (t : Traversal α) (graph : Graph) (table : LockTable) (above : List NodeId)
    (node : NodeId) : Prop where
  /-- The work is never done. -/
  idle : (t.run graph).steps.filterMap LockStep.operation? = []
  never : table.atOperation? (t.run graph).steps = none
  /-- The nodes down to the one where the path stops are locked, and no target is. -/
  acquired : (t.run graph).steps.filterMap LockStep.acquisition? = readLocks (above ++ [node])
  reported : (t.run graph).log =
    (List.range (above.length + 1)).map (⟨.ancestorLocked ·, none⟩)
  released : (t.run graph).steps.filterMap LockStep.release? =
    ((t.run graph).steps.filterMap LockStep.acquisition?).reverse
  restored : table.afterAll (t.run graph).steps = table
  refused : (t.run graph).answer = .error (t.stopError graph node above.length) ∧
    (t.run graph).state = graph
  unhindered : (∀ lock ∈ (t.run graph).steps.filterMap LockStep.acquisition?,
    table.permits (.acquire lock.1 lock.2) = true) → table.permitsAll (t.run graph).steps = true

/-- What a traversal does with locks wherever its path leads. -/
structure Disciplined (t : Traversal α) (graph : Graph) (table : LockTable) : Prop where
  /-- The path leads to a node, or there is a first name that a node on it does not have. -/
  outcome :
    (∃ above target, Route graph t.start t.path.segments above target ∧
      t.Reaches graph table above target) ∨
    ∃ front name rest above node, t.path.segments = front ++ name :: rest ∧
      Route graph t.start front above node ∧ graph.child? node name = none ∧
      t.Stops graph table above node
  /-- On a bare root, one lock is taken, and none is reported. -/
  bare : ∀ root, t.path = .root root →
    (t.run graph).steps.filterMap LockStep.acquisition? = [(t.start, t.mode)] ∧
    (t.run graph).log = (t.work t.start graph).log

theorem ancestorEvents_zero (count : Nat) :
    ancestorEvents 0 count = (List.range count).map (⟨.ancestorLocked ·, none⟩) := by
  rw [ancestorEvents, List.range_eq_range']

theorem steps_of_route (t : Traversal α)
    (route : Route graph t.start t.path.segments above target) :
    (t.run graph).steps = passing above ++ (claiming target t.mode ++
      .operate target :: releasing ((target, t.mode) :: readLocks above.reverse)) :=
  congrArg Trail.steps (t.run_of_route route)

theorem log_of_route (t : Traversal α)
    (route : Route graph t.start t.path.segments above target) :
    (t.run graph).log = ancestorEvents 0 above.length ++ (t.targetEvents above.length ++
      (t.work target graph).log) :=
  congrArg Trail.log (t.run_of_route route)

theorem outcome_of_route (t : Traversal α)
    (route : Route graph t.start t.path.segments above target) :
    (t.perform graph).outcome = (t.work target graph).outcome :=
  congrArg Trail.outcome (t.run_of_route route)

section Stop

variable (t : Traversal α) (names : t.path.segments = front ++ name :: rest)
  (route : Route graph t.start front above node) (stop : graph.child? node name = none)

include names route stop

theorem steps_of_stop :
    (t.run graph).steps =
      passing (above ++ [node]) ++ releasing (readLocks (above ++ [node]).reverse) :=
  congrArg Trail.steps (t.run_of_stop names route stop)

theorem log_of_stop : (t.run graph).log = ancestorEvents 0 (above.length + 1) :=
  congrArg Trail.log (t.run_of_stop names route stop)

theorem outcome_of_stop :
    (t.perform graph).outcome = (.error (t.stopError graph node above.length), graph) :=
  congrArg Trail.outcome (t.run_of_stop names route stop)

theorem acquisitions_of_stop :
    (t.run graph).steps.filterMap LockStep.acquisition? = readLocks (above ++ [node]) := by
  rw [t.steps_of_stop names route stop, List.filterMap_append, acquisitions_passing,
    acquisitions_releasing, List.append_nil]

theorem operations_of_stop : (t.run graph).steps.filterMap LockStep.operation? = [] := by
  rw [t.steps_of_stop names route stop, List.filterMap_append, operations_passing,
    operations_releasing, List.append_nil]

end Stop

theorem acquisitions_of_route (t : Traversal α)
    (route : Route graph t.start t.path.segments above target) :
    (t.run graph).steps.filterMap LockStep.acquisition? =
      readLocks above ++ [(target, t.mode)] := by
  rw [t.steps_of_route route, List.filterMap_append, List.filterMap_append, acquisitions_passing,
    acquisitions_claiming, List.filterMap_cons_none rfl, acquisitions_releasing, List.append_nil]

theorem operations_of_route (t : Traversal α)
    (route : Route graph t.start t.path.segments above target) :
    (t.run graph).steps.filterMap LockStep.operation? = [target] := by
  rw [t.steps_of_route route, List.filterMap_append, List.filterMap_append, operations_passing,
    operations_claiming]
  exact congrArg (target :: ·) (operations_releasing _)

theorem permitsAll_passing_of_free (table : LockTable) (above : List NodeId)
    (free : ∀ lock ∈ readLocks above, table.permits (.acquire lock.1 lock.2) = true) :
    table.permitsAll (passing above) = true := by
  apply permitsAll_passing
  intro node member
  exact free (node, .read) (by simp [readLocks, member])

theorem reaches_of_route (t : Traversal α) (table : LockTable)
    (route : Route graph t.start t.path.segments above target) (apart : target ∉ above) :
    t.Reaches graph table above target := by
  have ran := t.steps_of_route route
  have depth := route.length_above
  have acquired := t.acquisitions_of_route route
  have during : table.atOperation? (t.run graph).steps =
      some { table with holds := (target, t.mode) :: readLocks above.reverse ++ table.holds } := by
    rw [ran, LockTable.atOperation?_append _ (operations_passing above),
      LockTable.atOperation?_append _ (operations_claiming target t.mode), afterAll_passing,
      afterAll_claiming]
    rfl
  refine ⟨depth, t.operations_of_route route, during, ?modes, acquired, ?reported, ?released,
    ?restored, ?answered, ?unhindered⟩
  case modes =>
    intro alone found same node
    rw [during] at same
    cases same
    rw [alone]
    unfold LockTable.mode? readLocks
    cases t.mode <;> by_cases here : node = target <;> simp [here]
  case reported =>
    rw [t.log_of_route route]
    simp only [ancestorEvents_zero, targetEvents, depth, List.isEmpty_iff, List.append_assoc]
  case released =>
    rw [acquired, ran, List.filterMap_append, List.filterMap_append, releases_passing,
      releases_claiming, List.filterMap_cons_none rfl, releases_releasing]
    simp [readLocks]
  case restored =>
    rw [ran, LockTable.afterAll_append, LockTable.afterAll_append, afterAll_passing,
      afterAll_claiming]
    exact LockTable.afterAll_release table.holds ((target, t.mode) :: readLocks above.reverse)
      table.awaited
  case answered => exact Prod.mk.inj (t.outcome_of_route route)
  case unhindered =>
    rw [acquired]
    intro free
    have passed := permitsAll_passing_of_free table above fun lock member =>
      free lock (List.mem_append_left _ member)
    have claimed := permitsAll_claiming table above.reverse
      (by simpa using apart) (free (target, t.mode) (by simp))
    rw [ran, LockTable.permitsAll_append, LockTable.permitsAll_append, afterAll_passing, passed,
      claimed]
    exact LockTable.permitsAll_release _ _

theorem stops_of_stop (t : Traversal α) (table : LockTable)
    (names : t.path.segments = front ++ name :: rest)
    (route : Route graph t.start front above node) (stop : graph.child? node name = none) :
    t.Stops graph table above node := by
  have ran := t.steps_of_stop names route stop
  have acquired := t.acquisitions_of_stop names route stop
  have idle := t.operations_of_stop names route stop
  refine ⟨idle, ?never, acquired, ?reported, ?released, ?restored, ?refused, ?unhindered⟩
  case never =>
    have nothing := table.atOperation?_append idle []
    rwa [List.append_nil] at nothing
  case reported => rw [t.log_of_stop names route stop, ancestorEvents_zero]
  case released =>
    rw [acquired, ran, List.filterMap_append, releases_passing, releases_releasing]
    simp [readLocks]
  case restored =>
    rw [ran, LockTable.afterAll_append, afterAll_passing]
    exact LockTable.afterAll_release table.holds _ table.awaited
  case refused => exact Prod.mk.inj (t.outcome_of_stop names route stop)
  case unhindered =>
    rw [acquired]
    intro free
    rw [ran, LockTable.permitsAll_append, permitsAll_passing_of_free table _ free]
    exact LockTable.permitsAll_release _ _

/-- Wherever a path leads past nodes that are all different, a traversal locks exactly the nodes on
it, from the root down, works on the target alone, and gives every lock back. -/
theorem lock_discipline (t : Traversal α) (graph : Graph) (table : LockTable)
    (distinct : (graph.visited t.start t.path.segments).Nodup) : t.Disciplined graph table := by
  refine ⟨?outcome, ?bare⟩
  case outcome =>
    rcases Route.exists_or_stop graph t.start t.path.segments with
      ⟨above, target, route⟩ | ⟨front, name, rest, above, node, names, route, stop⟩
    · left
      rw [route.visited] at distinct
      have apart : target ∉ above := fun member =>
        (List.nodup_append.mp distinct).2.2 target member target List.mem_cons_self rfl
      exact ⟨above, target, route, t.reaches_of_route table route apart⟩
    · right
      exact ⟨front, name, rest, above, node, names, route, stop,
        t.stops_of_stop table names route stop⟩
  case bare =>
    intro root same
    have bare : t.path.segments = [] := by rw [same, Path.segments]
    have route : Route graph t.start t.path.segments [] t.start := by
      rw [bare]
      exact .here _
    have reached := t.reaches_of_route table route List.not_mem_nil
    exact ⟨reached.acquired, by simpa [bare] using reached.reported⟩

/-- A writer that makes a file in the directory `a` of a root and fails after that. -/
theorem lock_discipline_below_root :
    let graph : Graph :=
      { nodes := #[⟨.directory [("a", 1)], .fresh 0, 0o755, none⟩, .newDirectory 0 0o755 none] }
    let t : Traversal Unit :=
      { mode := .write
        start := 0
        path := .element ⟨none, ["a"], '/', by simp⟩
        work := fun target graph =>
          ⟨.error .readOnly, graph.addUnder target "b" (.newFile · 0o644 none), []⟩ }
    (graph.visited t.start t.path.segments).Nodup ∧ t.Disciplined graph {} :=
  ⟨by decide, lock_discipline _ _ _ (by decide)⟩

end Traversal

end CoupledFs
