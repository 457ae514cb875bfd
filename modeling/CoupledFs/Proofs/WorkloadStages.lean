import CoupledFs.Proofs.DirectoryTree
import CoupledFs.Proofs.Session
import CoupledFs.Proofs.WorkloadSize
import CoupledFs.Workload

/-! What goes before and after the work of a workload: a request that is in order, a file system to
build in, and what is reported in the end. -/

namespace CoupledFs.Workload

variable {request : Request} {content : String → Except Host.Refusal (List UInt8)} {config : Config}

theorem bind_eq_ok {ε α β : Type} {step : Except ε α} {next : α → Except ε β} {result : β}
    (succeeded : (step >>= next) = .ok result) :
    ∃ value, step = .ok value ∧ next value = .ok result := by
  cases step with
  | error error => cases succeeded
  | ok value => exact ⟨value, rfl, succeeded⟩

theorem validate_of_loadConfig (loaded : loadConfig request content = .ok config) :
    config.validate = .ok () := by
  have checked {given : Config} {complain : FsError → Complaint}
      (passed : (do
        given.validate.mapError complain
        return given) = Except.ok config) : config.validate = .ok () := by
    obtain ⟨_, valid, same⟩ := bind_eq_ok passed
    cases same
    cases checked : config.validate with
    | error error =>
      rw [checked] at valid
      cases valid
    | ok => rfl
  unfold loadConfig at loaded
  cases given : request.config with
  | none =>
    rw [given] at loaded
    exact checked loaded
  | some file =>
    rw [given] at loaded
    obtain ⟨_, -, loaded⟩ := bind_eq_ok loaded
    exact checked loaded

theorem prepare_eq_ok (ready : prepare request content = .ok (config, expected)) :
    request.threads ≠ 0 ∧
      expectedDirectories request.threads request.depth request.fanout = some expected ∧
      loadConfig request content = .ok config := by
  unfold prepare at ready
  by_cases zero : request.threads = 0
  · rw [if_pos zero] at ready
    cases ready
  · rw [if_neg zero] at ready
    cases counted : expectedDirectories request.threads request.depth request.fanout with
    | none =>
      rw [counted] at ready
      cases ready
    | some count =>
      rw [counted] at ready
      obtain ⟨loaded, found, same⟩ := bind_eq_ok ready
      cases same
      exact ⟨zero, rfl, found⟩

/-! ### Stages -/

/-- A stage that comes to a value, and what it leaves behind. -/
def Stage.Yields {α : Type} (stage : Stage α) (before : Progress) (value : α) (after : Progress) :
    Prop :=
  stage.run.run before = (.ok value, after)

section Stage

variable {α β : Type} {stage : Stage α} {before between after : Progress} {value : α}

theorem Stage.yields_pure (value : α) (progress : Progress) :
    (pure value : Stage α).Yields progress value progress :=
  rfl

theorem Stage.Yields.bind {next : α → Stage β} {result : β}
    (first : stage.Yields before value between)
    (second : (next value).Yields between result after) :
    (stage >>= next).Yields before result after := by
  unfold Yields at first second ⊢
  simp only [ExceptT.run_bind, StateT.run_bind, first]
  exact second

theorem Stage.yields_get (progress : Progress) :
    (get : Stage Progress).Yields progress progress progress :=
  rfl

/-- What is asked of the provider is answered, and the records of it are kept. -/
theorem Stage.yields_ask {action : Action Provider α} {provider : Provider}
    (answered : (action before.provider).outcome = (.ok value, provider))
    (complain : FsError → Complaint) :
    ∃ log, (ask action complain).Yields before value ⟨provider, log⟩ := by
  obtain ⟨answer, state⟩ := Prod.mk.inj answered
  refine ⟨before.log ++ (action before.provider).log, (yields_get before).bind ?_⟩
  dsimp only
  rw [answer, state]
  exact yields_pure value _

end Stage

theorem outcome_request_of_open {α : Type} {provider : Provider} {id : SystemId} {fs : FileSystem}
    (there : provider.system? id = some fs) (opened : fs.isOpen = true) (operation : String)
    (view : FileSystem → α) :
    (Provider.request id (fun fs => do
      fs.ensureOpen operation
      return view fs) provider).outcome = (.ok (view fs), provider) := by
  have asked : ((do
      fs.ensureOpen operation
      return view fs : Action Graph α) provider.graph).outcome =
        (.ok (view fs), provider.graph) := by
    rw [Action.outcome_bind, FileSystem.outcome_ensureOpen, FileSystem.check_of_open opened]
    rfl
  obtain ⟨answer, state⟩ := Prod.mk.inj asked
  rw [Provider.outcome_request there, answer, state]

/-- A site as workers find it: open, and with nothing in it but its root. -/
structure Site.Ready (site : Site) (config : Config) (provider : Provider) : Prop where
  there : provider.system? site.id = some site.fs
  opened : site.fs.isOpen = true
  readOnly : site.fs.store.readOnly = config.readOnly
  tree : site.fs.DirectoryTree provider.graph site.root (· = [])

theorem exists_first_root {table : RootTable} (known : (table.get? root).isSome = true) :
    ∃ first others start, table.roots = first :: others ∧ table.get? first = some start := by
  unfold RootTable.get? at known
  unfold RootTable.roots RootTable.get?
  cases entries : table.entries with
  | nil =>
    rw [entries] at known
    cases known
  | cons entry entries =>
    obtain ⟨first, start⟩ := entry
    exact ⟨first, _, start, rfl, by simp⟩

theorem exists_setUp (request : Request) (valid : config.validate = .ok ()) (start : Progress)
    (free : start.provider.registry.lookup "memfs-stress" = none) :
    ∃ site after, (setUp request config).Yields start site after ∧
      site.Ready config after.provider := by
  obtain ⟨fs, graph, built⟩ :=
    FileSystem.exists_build valid "memfs-stress" true start.provider.graph
  obtain ⟨root, _, -, -, knows⟩ := FileSystem.knows_of_build built
  obtain ⟨first, others, directory, roots, anchor⟩ :=
    exists_first_root ((knows root).mpr List.mem_cons_self)
  obtain ⟨provider, there, graph_eq, made⟩ : ∃ provider : Provider,
      provider.system? start.provider.systems.size = some fs ∧ provider.graph = graph ∧
      (Provider.newFileSystem "memfs-stress" config start.provider).outcome =
        (.ok start.provider.systems.size, provider) :=
    ⟨_, by simp [Provider.system?], rfl, Provider.outcome_newFileSystem_of_build free built⟩
  have opened : fs.isOpen = true := by
    obtain ⟨_, _, -, rfl, -⟩ := FileSystem.build_eq_ok built
    rfl
  have readOnly : fs.store.readOnly = config.readOnly := by
    obtain ⟨_, _, -, rfl, -⟩ := FileSystem.build_eq_ok built
    rfl
  have listed := outcome_request_of_open there opened "root_directories" FileSystem.roots
  have separated := outcome_request_of_open there opened "separator" (·.config.pathStyle.separator)
  obtain ⟨log₁, made⟩ := Stage.yields_ask made fun error =>
    (Complaint.ofError error).within "failed to create file system"
  obtain ⟨log₂, listed⟩ : ∃ log, (ask (Provider.request _ FileSystem.rootDirectories)).Yields
      ⟨provider, log₁⟩ fs.roots ⟨provider, log⟩ := Stage.yields_ask listed _
  obtain ⟨log₃, separated⟩ : ∃ log, (ask (Provider.request _ FileSystem.separator)).Yields
      ⟨provider, log₂⟩ fs.config.pathStyle.separator ⟨provider, log⟩ := Stage.yields_ask separated _
  obtain ⟨log₄, reported⟩ : ∃ log, (report (.workloadStarted request.threads request.depth
      request.fanout first.display)).Yields ⟨provider, log₃⟩ () ⟨provider, log⟩ := ⟨_, rfl⟩
  refine ⟨⟨start.provider.systems.size, fs, first, fs.config.pathStyle.separator⟩,
    ⟨provider, log₄⟩, made.bind (listed.bind ((Stage.yields_get _).bind ?_)),
    ⟨there, opened, readOnly, graph_eq ▸ FileSystem.directoryTree_of_build built anchor⟩⟩
  dsimp only
  rw [roots, there]
  exact separated.bind (reported.bind (Stage.yields_pure _ _))

/-- What is reported in the end is what was counted, by the workers and afterwards. -/
theorem exists_conclude (request : Request) (expected : Nat) {site : Site} {provider : Provider}
    (there : provider.system? site.id = some site.fs)
    (counted : (site.fs.countDirectories (.root site.root) provider.graph).outcome =
      (.ok count, provider.graph)) (log : Array Log.Record) (tallies : List Tally) :
    ∃ after, (conclude request expected site tallies).Yields ⟨provider, log⟩
      ⟨request.threads, request.depth, request.fanout, (tallies.foldl Tally.merge {}).created,
        expected, count - 1, (tallies.foldl Tally.merge {}).reads,
        (tallies.foldl Tally.merge {}).errors⟩ after := by
  obtain ⟨answer, state⟩ := Prod.mk.inj counted
  have counted := Provider.outcome_request there (·.countDirectories (.root site.root))
  rw [answer, state] at counted
  obtain ⟨after, closed, -, -⟩ := Provider.outcome_close there
  obtain ⟨log₁, counted⟩ : ∃ log', (ask (Provider.request site.id
      (·.countDirectories (.root site.root)))).Yields ⟨provider, log⟩ count ⟨provider, log'⟩ :=
    Stage.yields_ask counted _
  obtain ⟨log₂, closed⟩ : ∃ log', (ask (Provider.close site.id)).Yields ⟨provider, log₁⟩ ()
      ⟨after, log'⟩ := Stage.yields_ask closed _
  exact ⟨_, counted.bind (closed.bind (Stage.yields_pure _ _))⟩

end CoupledFs.Workload
