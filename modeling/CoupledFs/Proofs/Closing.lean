import CoupledFs.Proofs.Session

/-! What becomes of file systems in the course of a session. They can be given other roots and they can
be closed, and nothing opens them again: a closed file system refuses whatever it is asked, before it
looks at what it is asked. -/

namespace CoupledFs

/-- Whether an inquiry is one for open file systems only. The key, the store and whether a file system is
open can be asked for ever. -/
def Inquiry.needsOpen : Inquiry → Bool
  | .isOpen | .key | .fileStore => false
  | .newByteChannel _ | .newDirectoryStream _ | .delete _ | .pathMatcher _ | .newWatchService
  | .isReadOnly | .separator | .rootDirectories | .fileStores | .attributeViews | .getPath _ _
  | .lookupService => true

section Refusal

variable {σ α β : Type} {reply : Reply σ α} {state : σ} {key : String}

/-- The reply of a closed file system: an error and a warning, and nothing else. No lock is taken. -/
structure Reply.Refuses (reply : Reply σ α) (state : σ) (key : String) : Prop where
  answer : reply.answer = .error .closed
  unchanged : reply.state = state
  warning : ∃ operation, reply.log.map Log.Record.event = [.usedWhileClosed operation key]
  unlocked : reply.steps = []

namespace Action

variable {action : Action σ α}

/-- Nothing follows a refusal. -/
theorem refuses_bind (refuses : (action state).Refuses state key) (next : α → Action σ β) :
    ((action >>= next) state).Refuses state key := by
  obtain ⟨answer, unchanged, warning, unlocked⟩ := refuses
  cases reply : action state with
  | mk answer' state' trace =>
    rw [reply] at answer unchanged warning unlocked
    cases answer
    simp only [bind, reply]
    exact ⟨rfl, unchanged, warning, unlocked⟩

theorem refuses_within (refuses : (action state).Refuses state key) (span : Log.Span) :
    (action.within span state).Refuses state key := by
  obtain ⟨answer, unchanged, ⟨operation, warning⟩, unlocked⟩ := refuses
  refine ⟨answer, unchanged, ⟨operation, ?_⟩, (steps_within span action state).trans unlocked⟩
  rw [log_within, List.map_map]
  exact warning

end Action

end Refusal

namespace FileSystem

variable {fs later : FileSystem} {σ : Type}

/-- What can have become of a file system. -/
structure Becomes (fs later : FileSystem) : Prop where
  same : later = { fs with roots := later.roots, lifecycle := later.lifecycle }
  shut : fs.isOpen = false → later.isOpen = false

theorem Becomes.refl (fs : FileSystem) : fs.Becomes fs :=
  ⟨rfl, id⟩

theorem Becomes.trans {last : FileSystem} (first : fs.Becomes later) (second : later.Becomes last) :
    fs.Becomes last where
  same := by
    rw [second.same, first.same]
  shut := fun closed => second.shut (first.shut closed)

theorem Becomes.key (becomes : fs.Becomes later) : later.key = fs.key := by
  rw [becomes.same]
  rfl

theorem Becomes.defaultRoot (becomes : fs.Becomes later) : later.defaultRoot = fs.defaultRoot := by
  rw [becomes.same]

section Closed

variable (closed : fs.isOpen = false)

include closed

theorem refuses_ensureOpen (operation : String) (state : σ) :
    (fs.ensureOpen operation state).Refuses state fs.key := by
  have shut : fs.lifecycle.check = .error .closed := by
    unfold isOpen at closed
    simp [Lifecycle.check, closed]
  simp only [ensureOpen, shut]
  exact ⟨rfl, rfl, ⟨operation, rfl⟩, rfl⟩

theorem refuses_serve (request : Request) (graph : Graph) :
    (fs.serve request graph).Refuses graph fs.key := by
  have refused (operation : String) := refuses_ensureOpen closed operation graph
  cases request with
  | createDirectory | createFile | createSymbolicLink =>
    exact Action.refuses_bind (Action.refuses_within (Action.refuses_bind (refused _) _) _) _
  | readBasic | readPosix | checkAccess | listChildren =>
    exact Action.refuses_bind (Action.refuses_bind (refused _) _) _

theorem refuses_inquire {inquiry : Inquiry} (guarded : inquiry.needsOpen = true) (graph : Graph) :
    (fs.inquire inquiry graph).Refuses graph fs.key := by
  have refused (operation : String) := refuses_ensureOpen closed operation graph
  cases inquiry with
  | isOpen | key | fileStore => cases guarded
  | newByteChannel | newDirectoryStream | delete | pathMatcher | newWatchService | isReadOnly
  | separator | rootDirectories | fileStores | attributeViews | getPath | lookupService =>
    exact Action.refuses_bind (Action.refuses_bind (refused _) _) _

end Closed

end FileSystem

namespace Provider

variable {before after provider : Provider} {id : SystemId} {fs : FileSystem}

/-- No command does away with a file system. -/
theorem Consequence.becomes (consequence : Consequence before command after)
    (there : before.system? id = some fs) :
    ∃ later, after.system? id = some later ∧ fs.Becomes later := by
  have kept : ∃ later, before.system? id = some later ∧ fs.Becomes later := ⟨fs, there, .refl fs⟩
  have shut (other : SystemId) :
      ∃ later, (before.withShut other).system? id = some later ∧ fs.Becomes later := by
    refine ⟨_, system?_withShut_eq_some.mpr ⟨fs, there, rfl⟩, ?_⟩
    split
    · exact ⟨rfl, fun _ => rfl⟩
    · exact .refl fs
  cases consequence with
  | nothing | served | deregistered | dropped => exact kept
  | rerooted other table =>
    rw [system?_withRoots, there]
    split
    · exact ⟨_, rfl, rfl, fun closed => closed⟩
    · exact ⟨fs, rfl, .refl fs⟩
  | @shut other => exact shut other
  | @retired other => exact shut other
  | @detached _ _ added graph => exact ⟨fs, system?_withSystem_of_some there added graph, .refl fs⟩
  | @registered _ _ added graph => exact ⟨fs, system?_withSystem_of_some there added graph, .refl fs⟩

theorem exists_becomes_after (there : provider.system? id = some fs) (step : Int × Command) :
    ∃ later, (provider.after step).system? id = some later ∧ fs.Becomes later :=
  (consequence_of_obey (provider.atTime step.1) step.2).becomes there

theorem exists_becomes_afterAll (there : provider.system? id = some fs)
    (steps : List (Int × Command)) :
    ∃ later, (provider.afterAll steps).system? id = some later ∧ fs.Becomes later := by
  induction steps generalizing provider fs with
  | nil => exact ⟨fs, there, .refl fs⟩
  | cons step steps ih =>
    obtain ⟨next, there, first⟩ := exists_becomes_after there step
    obtain ⟨later, there, second⟩ := ih there
    exact ⟨later, there, first.trans second⟩

theorem system?_after_close (there : provider.system? id = some fs) (now : Int) :
    (provider.after (now, .operate id .close)).system? id =
      some { fs with lifecycle := ⟨false⟩ } := by
  have there' : (provider.atTime now).system? id = some fs := there
  obtain ⟨after, closed, -, shut⟩ := outcome_close there'
  obtain ⟨-, closed⟩ := Prod.mk.inj closed
  obtain ⟨-, state⟩ := Prod.mk.inj (outcome_operate_close id (provider.atTime now))
  change (operate id .close (provider.atTime now)).state.system? id = _
  rw [state, closed]
  exact shut

/-! ### What the registry is told -/

/-- The key of which a file system tells the registry by a command that it is out of use. Only closing
the file system can do that, and only for whoever is the first to close it. -/
def notice? (provider : Provider) (id : SystemId) (command : Command) : Option String :=
  if command = .operate id .close ∧ (shut id provider).answer = .ok true ∧ provider.hasRegistry then
    (provider.system? id).bind fun fs => if fs.registered then some fs.key else none
  else none

/-- All that a file system tells the registry in the course of a session. -/
def notices (id : SystemId) : List (Int × Command) → Provider → List String
  | [], _ => []
  | step :: steps, provider =>
    (provider.notice? id step.2).toList ++ notices id steps (provider.after step)

theorem answer_shut (id : SystemId) (provider : Provider) :
    (shut id provider).answer = .ok ((provider.system? id).any FileSystem.isOpen) := by
  cases there : provider.system? id with
  | none => exact congrArg Prod.fst (outcome_shut_of_none there)
  | some fs => exact congrArg Prod.fst (outcome_shut there)

theorem notice?_atTime (provider : Provider) (now : Int) (id : SystemId) (command : Command) :
    (provider.atTime now).notice? id command = provider.notice? id command := by
  rw [notice?, notice?, answer_shut, answer_shut]
  rfl

/-- What the registry does when it is told that a key is out of use. -/
def told (provider : Provider) : Option String → Provider
  | some key => provider.withoutKey key
  | none => provider

/-- Closing a file system does to the registry what the registry is told, and does no more to it. -/
theorem state_close_eq (id : SystemId) (provider : Provider) :
    (close id provider).state =
      (provider.withShut id).told (provider.notice? id (.operate id .close)) := by
  cases there : provider.system? id with
  | none =>
    rw [state_close_of_none there, withShut_of_none there, notice?, there]
    simp [told]
  | some fs =>
    rw [state_close there, notice?, answer_shut, there]
    cases opened : fs.isOpen <;> cases registered : fs.registered <;> cases provider.hasRegistry <;>
      simp [opened, registered, told]

theorem after_close (now : Int) (id : SystemId) (provider : Provider) :
    provider.after (now, .operate id .close) =
      ((provider.atTime now).withShut id).told (provider.notice? id (.operate id .close)) := by
  obtain ⟨-, state⟩ := Prod.mk.inj (outcome_operate_close id (provider.atTime now))
  change (operate id .close (provider.atTime now)).state = _
  rw [state, state_close_eq, notice?_atTime]

theorem notice?_of_closed (there : provider.system? id = some fs) (closed : fs.isOpen = false)
    (command : Command) : provider.notice? id command = none := by
  simp [notice?, answer_shut, there, closed]

theorem notices_of_closed (there : provider.system? id = some fs) (closed : fs.isOpen = false)
    (steps : List (Int × Command)) : notices id steps provider = [] := by
  induction steps generalizing provider fs with
  | nil => rfl
  | cons step steps ih =>
    obtain ⟨later, there', becomes⟩ := exists_becomes_after there step
    rw [notices, notice?_of_closed there closed, ih there' (becomes.shut closed)]
    rfl

theorem length_notices_le (id : SystemId) (steps : List (Int × Command)) (provider : Provider) :
    (notices id steps provider).length ≤ 1 := by
  induction steps generalizing provider with
  | nil => exact Nat.zero_le 1
  | cons step steps ih =>
    obtain ⟨now, command⟩ := step
    rw [notices]
    cases told : provider.notice? id command with
    | none => exact ih _
    | some key =>
      unfold notice? at told
      split at told
      · rename_i first
        obtain ⟨fs, there, -⟩ := Option.bind_eq_some_iff.mp told
        obtain ⟨rfl, -⟩ := first
        rw [notices_of_closed (system?_after_close there now) rfl]
        exact Nat.le_refl 1
      · cases told

/-! ### What a closed file system answers -/

/-- What can be said of a file system that is closed, whatever has happened since and whenever it is
asked. -/
structure Retired (provider : Provider) (id : SystemId) (key : String) : Prop where
  isOpen : (operate id (.inquire .isOpen) provider).answer = .ok (.finding (.flag false))
  request : ∀ request, (operate id (.request request) provider).Refuses provider key
  inquiry : ∀ inquiry : Inquiry, inquiry.needsOpen = true →
    (operate id (.inquire inquiry) provider).Refuses provider key
  /-- Closing it once more does nothing. -/
  close : operate id .close provider = ⟨.ok .done, provider, []⟩

theorem request_of_system? (there : provider.system? id = some fs)
    (action : FileSystem → Action Graph α) : request id action provider =
      ⟨(action fs provider.graph).answer, { provider with graph := (action fs provider.graph).state },
        (action fs provider.graph).trace⟩ := by
  simp only [request, there]
  rfl

/-- A file system refuses through its provider what it refuses itself. -/
theorem refuses_request {action : FileSystem → Action Graph α}
    (there : provider.system? id = some fs)
    (refuses : (action fs provider.graph).Refuses provider.graph fs.key) :
    (request id action provider).Refuses provider fs.key := by
  rw [request_of_system? there]
  exact ⟨refuses.answer, by rw [refuses.unchanged], refuses.warning, refuses.unlocked⟩

theorem shut_of_closed (there : provider.system? id = some fs) (closed : fs.isOpen = false) :
    shut id provider = ⟨.ok false, provider, []⟩ := by
  obtain ⟨answer, state⟩ := Prod.mk.inj (outcome_shut there)
  rw [closed] at answer
  rw [withShut_of_closed there closed] at state
  have silent : (shut id provider).trace = [] := by
    simp only [shut, bind, Action.inspect, there]
    rfl
  cases reply : shut id provider with
  | mk answer' state' trace =>
    rw [reply] at answer state silent
    simp only at answer state silent
    rw [answer, state, silent]

theorem retired_of_closed (there : provider.system? id = some fs) (closed : fs.isOpen = false) :
    provider.Retired id fs.key where
  isOpen := by
    have asked := congrArg Prod.fst (outcome_operate_inquire there .isOpen)
    rw [← closed]
    exact asked
  request := by
    intro call
    have served : (Provider.request id (·.serve call) provider).Refuses provider fs.key :=
      refuses_request there (FileSystem.refuses_serve closed call provider.graph)
    exact Action.refuses_bind served _
  inquiry := by
    intro inquiry guarded
    have asked : (Provider.request id (·.inquire inquiry) provider).Refuses provider fs.key :=
      refuses_request there (FileSystem.refuses_inquire closed guarded provider.graph)
    exact Action.refuses_bind asked _
  close := by
    have late := shut_of_closed there closed
    simp only [operate, close_eq, bind, late]
    rfl

/-- A file system that was closed stays closed and refuses all that is for open ones, whatever is done
afterwards: whether it is given other roots, is closed again, or has its key given to another. In all
this time it has told the registry at most once, and closing it does to the registry what that is told
and nothing else. -/
theorem retired_after_close (earlier later : List (Int × Command)) (now : Int) {id : SystemId}
    {fs : FileSystem} (there : (({} : Provider).afterAll earlier).system? id = some fs) :
    let session := earlier ++ (now, .operate id .close) :: later
    let provider := ({} : Provider).afterAll session
    (∃ closed, provider.system? id = some closed ∧ fs.Becomes closed ∧ closed.isOpen = false) ∧
      (∀ time, (provider.atTime time).Retired id fs.key) ∧
      (notices id session {}).length ≤ 1 ∧
      ∀ (time : Int) (provider : Provider), provider.after (time, .operate id .close) =
        ((provider.atTime time).withShut id).told (provider.notice? id (.operate id .close)) := by
  intro session provider
  have shut := system?_after_close there now
  obtain ⟨closed, there', becomes⟩ := exists_becomes_afterAll shut later
  have lasting : closed.isOpen = false := becomes.shut rfl
  have history : provider = ((({} : Provider).afterAll earlier).after
      (now, .operate id .close)).afterAll later := by
    simp [provider, session, afterAll]
  rw [← history] at there'
  have same : fs.Becomes closed := FileSystem.Becomes.trans ⟨rfl, fun _ => rfl⟩ becomes
  refine ⟨⟨closed, there', same, lasting⟩, ?_, length_notices_le id session {},
    fun time => after_close time id⟩
  intro time
  have there'' : (provider.atTime time).system? id = some closed := there'
  rw [← same.key]
  exact retired_of_closed there'' lasting

/-- A closed file system refuses a path that has no root, and another one under the same key does not
open it again. -/
theorem retired_after_close_and_successor :
    let earlier : List (Int × Command) := [(1, .newFileSystem "key" .unix)]
    let later : List (Int × Command) :=
      [(3, .operate 0 (.setRoots {})), (4, .newFileSystem "key" .unix), (5, .operate 0 .close)]
    let provider := ({} : Provider).afterAll (earlier ++ (2, .operate 0 .close) :: later)
    let path : Path := .root (.drive 'Z')
    (∃ fs, (({} : Provider).afterAll earlier).system? 0 = some fs ∧ fs.key = "key") ∧
      provider.lookup "key" = .ok 1 ∧
      (operate 0 (.request (.readBasic path)) (provider.atTime 6)).Refuses (provider.atTime 6) "key" ∧
      operate 0 .close (provider.atTime 6) = ⟨.ok .done, provider.atTime 6, []⟩ ∧
      notices 0 (earlier ++ (2, .operate 0 .close) :: later) {} = ["key"] := by
  intro earlier later provider path
  let fs : FileSystem :=
    ⟨.unix, ⟨"memfs", "key", false⟩, {}, ⟨[(.slash, 0)]⟩, .slash, ⟨["root"], ["root"]⟩, true⟩
  have there : (({} : Provider).afterAll earlier).system? 0 = some fs := rfl
  obtain ⟨-, retired, -⟩ := retired_after_close earlier later 2 there
  have refused := (retired 6).request (.readBasic path)
  exact ⟨⟨fs, there, rfl⟩, rfl, refused, (retired 6).close, rfl⟩

end Provider

end CoupledFs
