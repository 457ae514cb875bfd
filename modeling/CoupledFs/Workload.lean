import CoupledFs.Complaint
import CoupledFs.Config.Document
import CoupledFs.FileSystem.Tree
import CoupledFs.Host.Failure
import CoupledFs.Provider
import CoupledFs.Workload.Size
import CoupledFs.Workload.Task

/-! A workload: workers build trees of directories in one file system, and what they built is
counted afterwards. -/

namespace CoupledFs

namespace Workload

structure Request where
  threads : Nat := 8
  depth : Nat := 3
  fanout : Nat := 4
  /-- The file to read the configuration from. -/
  config : Option String := none
  /-- A path style that takes the place of the configured one. -/
  pathStyle : Option PathStyle := none
  /-- A file to write the report to. -/
  reportFile : Option String := none
  deriving DecidableEq, Repr

/-- What came of a workload. -/
structure Report where
  threads : Nat
  depth : Nat
  fanout : Nat
  created : Nat
  expected : Nat
  found : Nat
  reads : Nat
  errors : List (String × Nat)
  deriving DecidableEq, Repr

namespace Report

/-- Whether everything was built, and without an error. -/
def passed (report : Report) : Bool :=
  report.errors.isEmpty && report.found = report.expected

def status (report : Report) : String :=
  if report.passed then "passed" else "failed"

/-- The report of a run that took so many milliseconds. -/
def toValue (report : Report) (elapsed : Nat) : Json.Value :=
  .ofMembers [
    ("threads", .ofNat report.threads),
    ("depth", .ofNat report.depth),
    ("fanout", .ofNat report.fanout),
    ("directories_created", .ofNat report.created),
    ("directories_expected", .ofNat report.expected),
    ("directories_found", .ofNat report.found),
    ("attribute_reads", .ofNat report.reads),
    ("errors", .ofMembers (report.errors.map fun (label, count) => (label, .ofNat count))),
    ("elapsed_ms", .ofNat elapsed),
    ("status", .ofString report.status)]

/-- The last thing that is reported of a run that took so many milliseconds. -/
def finished (report : Report) (elapsed : Nat) : Log.Event :=
  .workloadFinished report.found report.expected elapsed report.status

def errorCount (report : Report) : Nat :=
  report.errors.foldl (fun count (_, more) => count + more) 0

/-- The complaint about a workload that did not pass. -/
def complaint (report : Report) : Complaint :=
  ⟨"verification failed: expected " ++ toString report.expected ++ " directories, found " ++
    toString report.found ++ ", " ++ toString report.errorCount ++ " errors", []⟩

end Report

/-- Reads a configuration. `content` is what reading the file came to. -/
def readConfig (content : Except Host.Refusal (List UInt8)) : Except FsError Config :=
  match content with
  | .ok document => Config.ofDocument document
  | .error refusal => .error (.io refusal.message)

/-- The configuration to run with: that of the file, or the usual one, with the requested style. A
style that is asked for brings its own roots along. -/
def loadConfig (request : Request) (content : String → Except Host.Refusal (List UInt8)) :
    Except Complaint Config := do
  let config ← match request.config with
    | none => pure Config.unix
    | some file =>
      (readConfig (content file)).mapError fun error =>
        (Complaint.ofError error).within ("failed to load config " ++ file)
  let config := match request.pathStyle with
    | none => config
    | some style => { config with pathStyle := style, roots := none }
  config.validate.mapError fun error => (Complaint.ofError error).within "invalid configuration"
  return config

/-- Checks a request. The number of threads counts before the size of the trees, and that before
the configuration. -/
def prepare (request : Request) (content : String → Except Host.Refusal (List UInt8)) :
    Except Complaint (Config × Nat) := do
  if request.threads = 0 then
    throw ⟨"--threads must be at least 1", []⟩
  match expectedDirectories request.threads request.depth request.fanout with
  | none =>
    throw ⟨"--depth " ++ toString request.depth ++ " with --fanout " ++ toString request.fanout ++
      " on " ++ toString request.threads ++ " threads is too large", []⟩
  | some expected => return (← loadConfig request content, expected)

/-- A workload in progress: the file systems so far, and what has been reported. -/
structure Progress where
  provider : Provider := {}
  log : Array Log.Record := #[]

abbrev Stage := ExceptT Complaint (StateM Progress)

/-- Makes a request of the provider. -/
def ask (action : Action Provider α) (complain : FsError → Complaint := Complaint.ofError) :
    Stage α := do
  let progress ← get
  let reply := action progress.provider
  set { progress with provider := reply.state, log := progress.log ++ reply.log }
  match reply.answer with
  | .ok value => return value
  | .error error => throw (complain error)

def report (event : Log.Event) : Stage Unit :=
  modify fun progress => { progress with log := progress.log.push ⟨event, none⟩ }

/-- Where workers build: in a file system, below its first root. -/
structure Site where
  id : SystemId
  fs : FileSystem
  root : Root
  separator : Char

/-- The worker of a given number. -/
def Site.worker (site : Site) (fanout number : Nat) : Worker where
  number
  root := site.root
  separator := site.separator
  fanout

/-- Makes the file system that workers build in. -/
def setUp (request : Request) (config : Config) : Stage Site := do
  let id ← ask (Provider.newFileSystem "memfs-stress" config) fun error =>
    (Complaint.ofError error).within "failed to create file system"
  let table ← ask (Provider.request id FileSystem.rootDirectories)
  match table.roots, (← get).provider.system? id with
  | root :: _, some fs =>
    let separator ← ask (Provider.request id FileSystem.separator)
    report (.workloadStarted request.threads request.depth request.fanout root.display)
    return { id, fs, root, separator }
  | _, _ => throw ⟨"file system has no roots", []⟩

def runWorker (fs : FileSystem) (depth : Nat) (worker : Worker) : Stage Tally := do
  let reply ← modifyGet fun progress =>
    let reply := (worker.task depth).run fs progress.provider.graph progress.log
    (reply.tally, { progress with
      provider := { progress.provider with graph := reply.graph }, log := reply.log })
  report (.workerFinished worker.number reply.created reply.reads)
  return reply

/-- Counts what workers built, closes the file system, and adds up what the workers counted. -/
def conclude (request : Request) (expected : Nat) (site : Site) (tallies : List Tally) :
    Stage Report := do
  let total := tallies.foldl Tally.merge {}
  let counted ← ask (Provider.request site.id (·.countDirectories (.root site.root)))
  ask (Provider.close site.id)
  return {
    threads := request.threads
    depth := request.depth
    fanout := request.fanout
    created := total.created
    expected
    found := counted - 1
    reads := total.reads
    errors := total.errors }

/-- Runs a workload that was found to be in order, one worker after the other. Every worker comes to its
end. What a machine can do to prevent that is left out: it can refuse a thread, lack the memory that the
threads or the trees take, or break a worker off, whose counts would then be missing and whose place among
the errors would be taken by a label of its own, `thread_panic`. -/
def execute (request : Request) (config : Config) (expected : Nat) : Stage Report := do
  let site ← setUp request config
  let tallies ← (List.range request.threads).mapM fun number =>
    runWorker site.fs request.depth (site.worker request.fanout number)
  conclude request expected site tallies

/-- What came of a request, and everything that was reported on the way there. -/
def run (request : Request) (content : String → Except Host.Refusal (List UInt8)) :
    Except Complaint Report × Array Log.Record :=
  match prepare request content with
  | .error complaint => (.error complaint, #[])
  | .ok (config, expected) =>
    let (answer, progress) := (execute request config expected).run.run {}
    (answer, progress.log)

end Workload

end CoupledFs
