import CoupledFs.Lock
import CoupledFs.Log.Level

/-! What the library reports about its work. -/

namespace CoupledFs.Log

/-- A report. -/
inductive Event where
  | systemCreated (key : String) (roots : Nat)
  | rootsReplaced (roots : Nat)
  | usedWhileClosed (operation key : String)
  | created (kind : NodeKind)
  | systemClosed (key : String)
  | registered (key : String)
  | deregistered (key : String)
  /-- A traversal has locked the ancestor of its target that is `depth` names below the root. -/
  | ancestorLocked (depth : Nat)
  | targetLocked (depth : Nat) (mode : LockMode)
  | workloadStarted (threads depth fanout : Nat) (root : String)
  | workerFinished (worker created reads : Nat)
  | workloadFinished (found expected milliseconds : Nat) (status : String)
  deriving DecidableEq, Repr

/-- The value of a field of a record. -/
inductive FieldValue where
  | number (n : Nat)
  | text (t : String)
  deriving DecidableEq, Repr

namespace Event

/-- The importance of an event. -/
def level : Event → Level
  | usedWhileClosed .. => .warn
  | workloadStarted .. | workloadFinished .. => .info
  | ancestorLocked .. | targetLocked .. => .trace
  | systemCreated .. | rootsReplaced .. | created .. | systemClosed .. | registered ..
  | deregistered .. | workerFinished .. => .debug

/-- The part of the program that reports the event, as log filters address it. -/
def source : Event → String
  | systemCreated .. | rootsReplaced .. | usedWhileClosed .. | created .. | systemClosed .. =>
    "memfs_core::filesystem"
  | registered .. | deregistered .. => "memfs_core::provider"
  | ancestorLocked .. | targetLocked .. => "memfs_core::traversal"
  | workloadStarted .. | workerFinished .. | workloadFinished .. => "memfs_stress"

/-- The wording of an event. -/
def message : Event → String
  | systemCreated .. => "memory file system created"
  | rootsReplaced .. => "root table replaced"
  | usedWhileClosed .. => "operation on closed file system"
  | created .directory => "directory created"
  | created .file => "file created"
  | created .symlink => "symbolic link created"
  | systemClosed .. => "memory file system closed"
  | registered .. => "file system registered"
  | deregistered .. => "file system deregistered"
  | ancestorLocked .. => "read lock acquired"
  | targetLocked .. => "terminal lock acquired"
  | workloadStarted .. => "starting concurrent directory workload"
  | workerFinished .. => "worker finished"
  | workloadFinished .. => "workload finished"

/-- The particulars of an event. -/
def fields : Event → List (String × FieldValue)
  | systemCreated key roots => [("key", .text key), ("roots", .number roots)]
  | rootsReplaced roots => [("roots", .number roots)]
  | usedWhileClosed operation key => [("operation", .text operation), ("key", .text key)]
  | created .. => []
  | systemClosed key | registered key | deregistered key => [("key", .text key)]
  | ancestorLocked depth => [("depth", .number depth)]
  | targetLocked depth mode => [("depth", .number depth), ("lock", .text mode.word)]
  | workloadStarted threads depth fanout root =>
    [("threads", .number threads), ("depth", .number depth), ("fanout", .number fanout),
      ("root", .text root)]
  | workerFinished worker made reads =>
    [("worker", .number worker), ("created", .number made), ("reads", .number reads)]
  | workloadFinished found expected milliseconds status =>
    [("directories_found", .number found), ("directories_expected", .number expected),
      ("elapsed_ms", .number milliseconds), ("status", .text status)]

end Event

/-- A request that further events may happen in. -/
structure Span where
  operation : String
  path : String
  /-- What a link to be created points at. -/
  linkTarget : Option String := none
  deriving DecidableEq, Repr

namespace Span

/-- The part of the program that a span belongs to. -/
def source : String := "memfs_core::filesystem"

/-- The importance of a span. -/
def level : Level := .info

/-- The particulars of a span. -/
def fields (span : Span) : List (String × FieldValue) :=
  [("component", .text "memfs_core"), ("operation", .text span.operation),
    ("path", .text span.path)] ++
    (span.linkTarget.map fun target => ("target", FieldValue.text target)).toList

end Span

/-- An event together with the request that it happened in. -/
structure Record where
  event : Event
  span : Option Span := none
  deriving DecidableEq, Repr

/-- The record of the same event inside a request, unless it already has one nearer to it. -/
def Record.within (record : Record) (span : Span) : Record :=
  { record with span := record.span.or (some span) }

end CoupledFs.Log
