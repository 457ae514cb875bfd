import CoupledFs.FileSystem
import CoupledFs.Workload.Label

/-! What a worker does, as a tree of requests: each is followed by what its answer calls for. -/

namespace CoupledFs.Workload

/-- What a worker has counted. The counts have no bound: only a run that is too long to end could bring
one of them beyond 64 bits. -/
structure Tally where
  created : Nat := 0
  reads : Nat := 0
  /-- How many errors there were of each label, in the order of the labels. -/
  errors : List (String × Nat) := []
  deriving DecidableEq, Repr

namespace Tally

/-- Counts a label so many more times. -/
def addTo (label : String) (count : Nat) : List (String × Nat) → List (String × Nat)
  | [] => [(label, count)]
  | (other, there) :: rest =>
    if label = other then (label, there + count) :: rest
    else if label < other then (label, count) :: (other, there) :: rest
    else (other, there) :: addTo label count rest

/-- Counts one more error. -/
def addError (tally : Tally) (error : FsError) : Tally :=
  { tally with errors := addTo (label error) 1 tally.errors }

/-- The counts of two workers together. -/
def merge (a b : Tally) : Tally where
  created := a.created + b.created
  reads := a.reads + b.reads
  errors := b.errors.foldl (fun errors (label, count) => addTo label count errors) a.errors

end Tally

/-- The rest of a worker's program. -/
inductive Task where
  | done (tally : Tally)
  | create (path : Path) (next : Except FsError Unit → Task)
  | read (path : Path) (next : Except FsError BasicAttributes → Task)

/-- A worker that builds a tree of directories of its own. -/
structure Worker where
  number : Nat
  root : Root
  separator : Char
  fanout : Nat

namespace Worker

/-- The name of the directory that is the worker's own. -/
def top (worker : Worker) : String :=
  "worker-" ++ toString worker.number

def path (worker : Worker) (names : List String) : Path :=
  (Path.ofParts (some worker.root) names worker.separator).getD (.root worker.root)

def childrenOf (worker : Worker) (names : List String) : List (List String) :=
  (List.range worker.fanout).map fun i => names ++ ["d" ++ toString i]

/-- Reads paths one after the other, whatever comes of each. -/
def readAll (tally : Tally) (next : Tally → Task) : List Path → Task
  | [] => next tally
  | path :: paths => .read path fun answer =>
    match answer with
    | .ok _ => readAll { tally with reads := tally.reads + 1 } next paths
    | .error error => readAll (tally.addError error) next paths

/-- Makes the directories of one level. A directory that was made is read together with everything
above it, and only its children belong to the next level, which `below` collects in reverse. -/
def makeLevel (worker : Worker) (deeper : Bool) (below : List (List String))
    (tally : Tally) (next : List (List String) → Tally → Task) : List (List String) → Task
  | [] => next below.reverse tally
  | names :: others => .create (worker.path names) fun answer =>
    match answer with
    | .ok () =>
      let paths := (List.range (names.length + 1)).map fun length => worker.path (names.take length)
      let children := if deeper then worker.childrenOf names else []
      readAll { tally with created := tally.created + 1 }
        (fun tally => makeLevel worker deeper (children.reverse ++ below) tally next others) paths
    | .error error => makeLevel worker deeper below (tally.addError error) next others

/-- Makes the given directories and as many levels below them as are left. -/
def makeLevels (worker : Worker) : Nat → List (List String) → Tally → Task
  | 0, level, tally => worker.makeLevel false [] tally (fun _ tally => .done tally) level
  | left + 1, level, tally =>
    worker.makeLevel true [] tally
      (fun below tally =>
        if below.isEmpty then .done tally else makeLevels worker left below tally) level

/-- The worker's program: a directory of its own with `depth` levels below it. -/
def task (worker : Worker) (depth : Nat) : Task :=
  worker.makeLevels depth [[worker.top]] {}

end Worker

/-- What running a task leaves behind. -/
structure TaskReply where
  tally : Tally
  graph : Graph
  log : Array Log.Record

/-- Runs a task to its end, adding its records to those already made. -/
def Task.run (fs : FileSystem) (graph : Graph) (log : Array Log.Record) : Task → TaskReply
  | .done tally => ⟨tally, graph, log⟩
  | .create path next =>
    let reply := fs.createDirectory path graph
    (next reply.answer).run fs reply.state (log ++ reply.log)
  | .read path next =>
    let reply := fs.readBasic path graph
    (next reply.answer).run fs reply.state (log ++ reply.log)

end CoupledFs.Workload
