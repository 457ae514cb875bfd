import CoupledFs.Action
import CoupledFs.Node.Graph
import CoupledFs.Path

/-! Walking along a path while holding locks: every ancestor of the target is locked for reading
until the work on the target is done, and the target alone may be locked for writing. -/

namespace CoupledFs

/-- Work to be done on the node that a path names, under a lock of the given mode. The work itself takes
no lock. -/
structure Traversal (α : Type) where
  mode : LockMode
  /-- The directory that the path's root stands for. -/
  start : NodeId
  path : Path
  work : NodeId → Action Graph α

/-- What a request comes to before any lock is taken: it is refused, or it is a traversal. -/
abbrev Plan (α : Type) := Except FsError (Traversal α)

/-- Where a traversal stands. The nodes `held` are the ancestors locked so far, innermost first. -/
inductive Stage (α : Type) where
  /-- About to lock a node for reading, with names to be looked up from there. -/
  | entering (held : List NodeId) (node : NodeId) (name : String) (names : List String)
  /-- About to look up a name in a node that has just been locked. -/
  | looking (held : List NodeId) (node : NodeId) (name : String) (names : List String)
  /-- About to ask for the lock of the target. -/
  | arriving (held : List NodeId) (target : NodeId)
  /-- Waiting to write to the target. -/
  | waiting (held : List NodeId) (target : NodeId)
  /-- About to work on the target, which is locked. -/
  | working (held : List NodeId) (target : NodeId)
  /-- About to give back the first of the locks that are left; finished when none is. -/
  | leaving (locks : List (NodeId × LockMode)) (answer : Except FsError α)

/-- What comes next for a traversal: its answer when it is finished, and one more step before. -/
inductive Turn (α : Type) where
  | done (answer : Except FsError α)
  | step (lock : LockStep) (next : Stage α) (graph : Graph) (log : List Log.Record)

variable {α β : Type}

namespace Stage

/-- Having come to a node with names left to look up. -/
def toward (held : List NodeId) (node : NodeId) : List String → Stage α
  | [] => .arriving held node
  | name :: names => .entering held node name names

/-- A bound on the steps that are left. -/
def remaining : Stage α → Nat
  | entering held _ _ names => 3 * names.length + held.length + 7
  | looking held _ _ names => 3 * names.length + held.length + 6
  | arriving held _ => held.length + 4
  | waiting held _ => held.length + 3
  | working held _ => held.length + 2
  | leaving locks _ => locks.length

theorem remaining_toward (held : List NodeId) (node : NodeId) (names : List String) :
    (toward held node names : Stage α).remaining ≤ 3 * names.length + held.length + 4 := by
  cases names <;> simp [toward, remaining]
  omega

end Stage

namespace Traversal

def begin (t : Traversal α) : Stage α :=
  .toward [] t.start t.path.segments

/-- The same traversal with another form of answer. -/
def map (f : α → β) (t : Traversal α) : Traversal β where
  mode := t.mode
  start := t.start
  path := t.path
  work := fun target => f <$> t.work target

/-- Where looking up a name leads: on to the child, or out with all locks. A lookup that fails names
the path as far as it got. -/
def lookUp (t : Traversal α) (graph : Graph) (held : List NodeId) (node : NodeId) (name : String)
    (names : List String) : Stage α :=
  let out (error : FsError) := .leaving ((node :: held).map (·, .read)) (.error error)
  if (graph.node node).isDirectory then
    match graph.child? node name with
    | some child => .toward (node :: held) child names
    | none => out (.noSuchFile (t.path.displayUpTo (held.length + 1)))
  else out (.notADirectory (t.path.displayUpTo held.length))

/-- Locks the target. A bare root is locked without a report. -/
def lockTarget (t : Traversal α) (graph : Graph) (held : List NodeId) (target : NodeId) : Turn α :=
  .step (.acquire target t.mode) (.working held target) graph
    (if t.path.segments.isEmpty then [] else [⟨.targetLocked held.length t.mode, none⟩])

/-- What comes next for a traversal. Locks are given back in the reverse of the order in which they
were taken, whatever the work on the target comes to. -/
def turn (t : Traversal α) (graph : Graph) : Stage α → Turn α
  | .entering held node name names =>
    .step (.acquire node .read) (.looking held node name names) graph
      [⟨.ancestorLocked held.length, none⟩]
  | .looking held node name names =>
    .step (.lookUp node) (t.lookUp graph held node name names) graph []
  | .arriving held target =>
    match t.mode with
    | .read => t.lockTarget graph held target
    | .write => .step (.await target) (.waiting held target) graph []
  | .waiting held target => t.lockTarget graph held target
  | .working held target =>
    let reply := t.work target graph
    .step (.operate target) (.leaving ((target, t.mode) :: held.map (·, .read)) reply.answer)
      reply.state reply.log
  | .leaving [] answer => .done answer
  | .leaving ((node, mode) :: locks) answer =>
    .step (.release node mode) (.leaving locks answer) graph []

theorem remaining_lookUp (t : Traversal α) (graph : Graph) (held : List NodeId) (node : NodeId)
    (name : String) (names : List String) :
    (t.lookUp graph held node name names).remaining < 3 * names.length + held.length + 6 := by
  have onward (child : NodeId) := Stage.remaining_toward (α := α) (node :: held) child names
  simp only [List.length_cons] at onward
  unfold lookUp
  split
  · split
    · exact Nat.lt_of_le_of_lt (onward _) (by omega)
    · simp only [Stage.remaining, List.length_map, List.length_cons]
      omega
  · simp only [Stage.remaining, List.length_map, List.length_cons]
    omega

theorem remaining_turn {t : Traversal α} {stage : Stage α}
    (moved : t.turn graph stage = .step lock next graph' log) :
    next.remaining < stage.remaining := by
  cases stage with
  | entering held node name names =>
    cases moved
    simp [Stage.remaining]
  | looking held node name names =>
    cases moved
    exact t.remaining_lookUp graph held node name names
  | arriving held target =>
    simp only [turn] at moved
    split at moved <;> cases moved <;> simp [Stage.remaining]
  | waiting held target =>
    cases moved
    simp [Stage.remaining]
  | working held target =>
    cases moved
    simp [Stage.remaining]
  | leaving locks answer =>
    cases locks with
    | nil => cases moved
    | cons lock locks =>
      cases moved
      simp [Stage.remaining]

/-- Everything that a traversal does from a stage on while nobody else does anything. -/
def runFrom (t : Traversal α) (graph : Graph) (stage : Stage α) : Reply Graph α :=
  match _ : t.turn graph stage with
  | .done answer => ⟨answer, graph, []⟩
  | .step lock next graph log =>
    (t.runFrom graph next).behind (.lock lock :: log.map .record)
termination_by stage.remaining
decreasing_by exact remaining_turn ‹_›

/-- Everything that a traversal does while nobody else does anything. -/
def run (t : Traversal α) (graph : Graph) : Reply Graph α :=
  t.runFrom graph t.begin

/-- Performs a traversal alone. -/
def perform (t : Traversal α) : Action Graph α :=
  t.run

end Traversal

def Plan.perform (plan : Plan α) : Action Graph α := do
  let traversal ← Action.ofExcept plan
  traversal.perform

end CoupledFs
