import CoupledFs.Proofs.Registry
import CoupledFs.Proofs.Request

/-! Everything that can be asked of a file system. -/

namespace CoupledFs

namespace Action

variable {σ α β : Type}

/-- An action that leaves the state as it is and takes no lock, whatever it answers. -/
def Idle (action : Action σ α) : Prop :=
  ∀ state, (action state).state = state ∧ (action state).steps = []

theorem idle_pure (value : α) : (pure value : Action σ α).Idle :=
  fun _ => ⟨rfl, rfl⟩

theorem idle_fail (error : FsError) : (fail error : Action σ α).Idle :=
  fun _ => ⟨rfl, rfl⟩

theorem idle_ofExcept (answer : Except FsError α) : (ofExcept answer : Action σ α).Idle :=
  fun _ => ⟨rfl, rfl⟩

theorem idle_report (event : Log.Event) : (report event : Action σ Unit).Idle :=
  fun _ => ⟨rfl, rfl⟩

theorem Idle.bind {action : Action σ α} {next : α → Action σ β} (first : action.Idle)
    (second : ∀ value, (next value).Idle) : (action >>= next).Idle := by
  intro state
  obtain ⟨kept, unlocked⟩ := first state
  change (action state).outcome.2 = state at kept
  change ((action >>= next) state).outcome.2 = state ∧ _
  rw [Action.outcome_bind, Action.steps_bind, unlocked, List.nil_append]
  cases came : (action state).outcome with
  | mk answer between =>
    rw [came] at kept
    cases answer with
    | error error => exact ⟨kept, rfl⟩
    | ok value =>
      cases kept
      exact second value _

end Action

/-- What can be asked of a file system besides its trees. Some of it is always refused. -/
inductive Inquiry where
  | newByteChannel (path : Path)
  | newDirectoryStream (path : Path)
  | delete (path : Path)
  | pathMatcher (pattern : String)
  | newWatchService
  | isReadOnly
  | separator
  | rootDirectories
  | fileStores
  | attributeViews
  | getPath (first : String) (more : List String)
  | lookupService
  | isOpen
  | key
  | fileStore
  deriving DecidableEq, Repr

inductive Finding where
  | nothing
  | flag (value : Bool)
  | separator (mark : Char)
  | roots (table : RootTable)
  | stores (stores : List StoreInfo)
  | views (names : List String)
  | path (path : Path)
  | principals (principals : Principals)
  | key (key : String)
  deriving DecidableEq, Repr

namespace FileSystem

def inquire (fs : FileSystem) : Inquiry → Action Graph Finding
  | .newByteChannel path => do
    fs.newByteChannel path
    return .nothing
  | .newDirectoryStream path => do
    fs.newDirectoryStream path
    return .nothing
  | .delete path => do
    fs.delete path
    return .nothing
  | .pathMatcher pattern => do
    fs.pathMatcher pattern
    return .nothing
  | .newWatchService => do
    fs.newWatchService
    return .nothing
  | .isReadOnly => return .flag (← fs.isReadOnly)
  | .separator => return .separator (← fs.separator)
  | .rootDirectories => return .roots (← fs.rootDirectories)
  | .fileStores => return .stores (← fs.fileStores)
  | .attributeViews => return .views (← fs.attributeViews)
  | .getPath first more => return .path (← fs.getPath first more)
  | .lookupService => return .principals (← fs.lookupService)
  | .isOpen => return .flag fs.isOpen
  | .key => return .key fs.key
  | .fileStore => return .stores [fs.store]

variable {σ : Type}

theorem idle_ensureOpen (fs : FileSystem) (operation : String) :
    (fs.ensureOpen operation : Action σ Unit).Idle := by
  unfold ensureOpen
  cases fs.lifecycle.check with
  | ok => exact Action.idle_pure ()
  | error error =>
    exact (Action.idle_report _).bind fun _ => Action.idle_fail error

theorem idle_whileOpen {α β : Type} (fs : FileSystem) (operation : String) {action : Action σ α}
    (idle : action.Idle) (f : α → β) :
    (do
      let value ← (do
        fs.ensureOpen operation
        action)
      return f value : Action σ β).Idle :=
  ((fs.idle_ensureOpen operation).bind fun _ => idle).bind fun _ => Action.idle_pure _

theorem idle_inquire (fs : FileSystem) (inquiry : Inquiry) : (fs.inquire inquiry).Idle := by
  cases inquiry with
  | newByteChannel path =>
    have resolved : (discard (Action.ofExcept (fs.resolveRoot path)) : Action Graph Unit).Idle :=
      (Action.idle_ofExcept _).bind fun _ => Action.idle_pure _
    have refused := resolved.bind fun _ => @Action.idle_fail _ Unit (.notImplemented "new_byte_channel")
    exact fs.idle_whileOpen _ refused fun _ => Finding.nothing
  | newDirectoryStream | delete | pathMatcher | newWatchService =>
    exact fs.idle_whileOpen _ (Action.idle_fail _) fun _ => Finding.nothing
  | isReadOnly | separator | rootDirectories | fileStores | attributeViews | lookupService =>
    exact fs.idle_whileOpen _ (Action.idle_pure _) _
  | getPath => exact fs.idle_whileOpen _ (Action.idle_ofExcept _) _
  | isOpen | key | fileStore => exact Action.idle_pure _

end FileSystem

/-- Everything that can be asked of a file system. -/
inductive Operation where
  | request (request : Request)
  | inquire (inquiry : Inquiry)
  | setRoots (table : RootTable)
  | close
  deriving DecidableEq, Repr

/-- What is answered, unless what was asked fails. -/
inductive Response where
  | answer (answer : Answer)
  | finding (finding : Finding)
  | system (id : SystemId)
  | done
  deriving DecidableEq, Repr

namespace Provider

variable {provider : Provider} {id : SystemId} {fs : FileSystem}

def operate (id : SystemId) : Operation → Action Provider Response
  | .request call => return .answer (← request id (·.serve call))
  | .inquire inquiry => return .finding (← request id (·.inquire inquiry))
  | .setRoots table => do
    setRoots id table
    return .done
  | .close => do
    close id
    return .done

def withRoots (provider : Provider) (id : SystemId) (table : RootTable) : Provider :=
  { provider with systems := provider.systems.modify id (·.withRoots table) }

theorem system?_withRoots (provider : Provider) (id other : SystemId) (table : RootTable) :
    (provider.withRoots id table).system? other = if other = id
      then (provider.system? other).map (·.withRoots table) else provider.system? other := by
  unfold withRoots system?
  by_cases same : other = id
  · simp [Array.getElem?_modify, same]
  · simp [Array.getElem?_modify, same, Ne.symm same]

theorem outcome_map_request_of_none {α β : Type} (missing : provider.system? id = none)
    (action : FileSystem → Action Graph α) (f : α → β) :
    ((do return f (← request id action)) provider).outcome =
      (.error (.unknownFileSystem ""), provider) := by
  rw [Action.outcome_bind, outcome_request_of_none missing]

theorem outcome_operate_request (there : provider.system? id = some fs) (call : Request) :
    (operate id (.request call) provider).outcome =
      ((fs.serve call provider.graph).answer.map .answer,
        { provider with graph := (fs.serve call provider.graph).state }) := by
  have served := outcome_request there (·.serve call)
  rw [operate, Action.outcome_bind, served]
  cases (fs.serve call provider.graph).answer <;> rfl

theorem answer_operate_request (there : provider.system? id = some fs) (call : Request) :
    (operate id (.request call) provider).answer = (fs.serve call provider.graph).answer.map .answer :=
  congrArg Prod.fst (outcome_operate_request there call)

theorem outcome_operate_inquire (there : provider.system? id = some fs) (inquiry : Inquiry) :
    (operate id (.inquire inquiry) provider).outcome =
      ((fs.inquire inquiry provider.graph).answer.map .finding, provider) := by
  have asked := outcome_request there (·.inquire inquiry)
  rw [(fs.idle_inquire inquiry provider.graph).1] at asked
  rw [operate, Action.outcome_bind, asked]
  cases (fs.inquire inquiry provider.graph).answer <;> rfl

theorem answer_operate_inquire (there : provider.system? id = some fs) (inquiry : Inquiry) :
    (operate id (.inquire inquiry) provider).answer =
      (fs.inquire inquiry provider.graph).answer.map .finding :=
  congrArg Prod.fst (outcome_operate_inquire there inquiry)

/-- What is asked of a file system takes the same locks wherever it is asked and in whatever form its
answer is wanted. -/
theorem steps_map_request {α β : Type} (there : provider.system? id = some fs)
    (action : FileSystem → Action Graph α) (f : α → β) :
    ((do return f (← request id action)) provider).steps = (action fs provider.graph).steps := by
  change ((f <$> request id action) provider).steps = _
  rw [Action.steps_map, request, there]
  rfl

theorem outcome_operate_setRoots (id : SystemId) (table : RootTable) (provider : Provider) :
    (operate id (.setRoots table) provider).outcome = (.ok .done, provider.withRoots id table) :=
  rfl

theorem outcome_operate_close (id : SystemId) (provider : Provider) :
    (operate id .close provider).outcome = (.ok .done, (close id provider).state) := by
  have closed : (close id provider).outcome = (.ok (), (close id provider).state) := by
    cases there : provider.system? id with
    | none => rw [outcome_close_of_none there, state_close_of_none there]
    | some fs => rw [outcome_close_eq there, state_close there]
  rw [operate, Action.outcome_bind, closed]
  rfl

end Provider

end CoupledFs
