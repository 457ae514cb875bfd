import CoupledFs.Node

/-! Reader and writer locks on nodes. -/

namespace CoupledFs

/-- Readers share a node; a writer has it alone. -/
inductive LockMode where
  | read
  | write
  deriving DecidableEq, Repr

/-- The mode as records name it. -/
def LockMode.word : LockMode → String
  | read => "Read"
  | write => "Write"

/-- The locks that are held, with an entry for each holder, and the nodes that writers wait for,
with an entry for each writer. -/
structure LockTable where
  holds : List (NodeId × LockMode) := []
  awaited : List NodeId := []
  deriving DecidableEq, Repr

/-- One step of a holder of locks. -/
inductive LockStep where
  /-- Asks for a node to write to, and waits for it from then on. -/
  | await (node : NodeId)
  | acquire (node : NodeId) (mode : LockMode)
  /-- Looks up a name in a node whose lock is held. -/
  | lookUp (node : NodeId)
  /-- Work on a node whose lock is held. -/
  | operate (node : NodeId)
  | release (node : NodeId) (mode : LockMode)
  deriving DecidableEq, Repr

namespace LockTable

/-- The mode in which a node is locked, if it is. -/
def mode? (table : LockTable) (node : NodeId) : Option LockMode :=
  if (node, .write) ∈ table.holds then some .write
  else if (node, .read) ∈ table.holds then some .read
  else none

/-- Whether a step can be taken now. A reader waits while a writer holds the node or waits for it,
and a writer waits while anyone holds it; nothing else has to wait. -/
def permits (table : LockTable) : LockStep → Bool
  | .acquire node .read => (node, .write) ∉ table.holds ∧ node ∉ table.awaited
  | .acquire node .write => (node, .write) ∉ table.holds ∧ (node, .read) ∉ table.holds
  | .await _ | .lookUp _ | .operate _ | .release .. => true

def after (table : LockTable) : LockStep → LockTable
  | .await node => { table with awaited := node :: table.awaited }
  | .acquire node .read => { table with holds := (node, .read) :: table.holds }
  | .acquire node .write => ⟨(node, .write) :: table.holds, table.awaited.erase node⟩
  | .lookUp _ | .operate _ => table
  | .release node mode => { table with holds := table.holds.erase (node, mode) }

def afterAll (table : LockTable) (steps : List LockStep) : LockTable :=
  steps.foldl after table

/-- Whether no step of a run has to wait. -/
def permitsAll (table : LockTable) : List LockStep → Bool
  | [] => true
  | step :: steps => table.permits step && (table.after step).permitsAll steps

/-- The table as the first work in a run of steps finds it. -/
def atOperation? (table : LockTable) : List LockStep → Option LockTable
  | [] => none
  | .operate _ :: _ => some table
  | step :: steps => (table.after step).atOperation? steps

end LockTable

end CoupledFs
