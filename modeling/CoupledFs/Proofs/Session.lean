import CoupledFs.Proofs.Operation
import CoupledFs.Proofs.Upkeep

/-! Sessions: what is asked of a provider and of its file systems, one thing after the other. -/

namespace CoupledFs

/-- Everything that can be asked of a provider and of its file systems. -/
inductive Command where
  | newFileSystem (key : String) (config : Config)
  | newDetached (key : String) (config : Config)
  | getFileSystem (key : String)
  | deregister (key : String)
  | dropRegistry
  | operate (id : SystemId) (operation : Operation)
  deriving DecidableEq, Repr

namespace Provider

variable {before : Provider}

def obey : Command → Action Provider Response
  | .newFileSystem key config => return .system (← newFileSystem key config)
  | .newDetached key config => return .system (← newDetached key config)
  | .getFileSystem key => do
    let found ← Action.inspect (·.lookup key)
    return .system (← Action.ofExcept found)
  | .deregister key => do
    deregister key
    return .done
  | .dropRegistry => do
    Action.modify dropRegistry
    return .done
  | .operate id operation => operate id operation

def atTime (provider : Provider) (now : Int) : Provider :=
  { provider with graph := { provider.graph with clock := now } }

/-- What a command leaves behind that is given at some time of day. -/
def after (provider : Provider) (step : Int × Command) : Provider :=
  (obey step.2 (provider.atTime step.1)).state

/-- What a session leaves behind. -/
def afterAll (provider : Provider) (steps : List (Int × Command)) : Provider :=
  steps.foldl after provider

def reply (provider : Provider) (step : Int × Command) : Except FsError Response :=
  (obey step.2 (provider.atTime step.1)).answer

/-- A session step by step, each step with the provider that it is asked of. -/
def history : List (Int × Command) → Provider → List (Provider × (Int × Command))
  | [], _ => []
  | step :: steps, provider => (provider, step) :: history steps (provider.after step)

theorem afterAll_concat (provider : Provider) (steps : List (Int × Command))
    (step : Int × Command) :
    provider.afterAll (steps ++ [step]) = (provider.afterAll steps).after step := by
  simp [afterAll]

def withSystem (provider : Provider) (fs : FileSystem) (graph : Graph) : Provider :=
  { provider with graph, systems := provider.systems.push fs }

theorem system?_withSystem (provider : Provider) (fs : FileSystem) (graph : Graph)
    (id : SystemId) : (provider.withSystem fs graph).system? id =
      if id = provider.systems.size then some fs else provider.system? id := by
  simp only [withSystem, system?, Array.getElem?_push]

theorem system?_withSystem_of_some {id : SystemId} {found : FileSystem}
    (there : before.system? id = some found) (fs : FileSystem) (graph : Graph) :
    (before.withSystem fs graph).system? id = some found := by
  obtain ⟨inside, -⟩ := Array.getElem?_eq_some_iff.mp there
  rw [system?_withSystem, if_neg (Nat.ne_of_lt inside), there]

def withKey (provider : Provider) (key : String) (id : SystemId) : Provider :=
  { provider with registry := (key, id) :: provider.registry }

theorem lookup_withKey (provider : Provider) (key other : String) (id : SystemId) :
    (provider.withKey key id).registry.lookup other =
      if other = key then some id else provider.registry.lookup other := by
  by_cases same : other = key
  · simp [withKey, same]
  · have differs : (other == key) = false := by simpa using same
    simp [withKey, List.lookup_cons, differs, same]

/-- What a command can do to a provider. -/
inductive Consequence (before : Provider) : Command → Provider → Prop where
  | nothing (command : Command) : Consequence before command before
  | served {id : SystemId} {fs : FileSystem} (there : before.system? id = some fs)
      (request : Request) : Consequence before (.operate id (.request request))
        { before with graph := (fs.serve request before.graph).state }
  | rerooted (id : SystemId) (table : RootTable) :
      Consequence before (.operate id (.setRoots table)) (before.withRoots id table)
  | shut {id : SystemId} {fs : FileSystem} (there : before.system? id = some fs)
      (idle : ¬ (fs.isOpen ∧ fs.registered ∧ before.hasRegistry)) :
      Consequence before (.operate id .close) (before.withShut id)
  | retired {id : SystemId} {fs : FileSystem} (there : before.system? id = some fs)
      (due : fs.isOpen ∧ fs.registered ∧ before.hasRegistry) :
      Consequence before (.operate id .close) ((before.withShut id).withoutKey fs.key)
  | deregistered (key : String) : Consequence before (.deregister key) (before.withoutKey key)
  | dropped : Consequence before .dropRegistry before.dropRegistry
  | detached {key : String} {config : Config} {fs : FileSystem} {graph : Graph}
      (built : (FileSystem.build key config false before.graph).outcome = (.ok fs, graph)) :
      Consequence before (.newDetached key config) (before.withSystem fs graph)
  | registered {key : String} {config : Config} {fs : FileSystem} {graph : Graph}
      (free : before.registry.lookup key = none)
      (built : (FileSystem.build key config true before.graph).outcome = (.ok fs, graph)) :
      Consequence before (.newFileSystem key config)
        ((before.withSystem fs graph).withKey key before.systems.size)

private theorem state_of_map {σ α β : Type} (action : Action σ α) (f : α → β) (state : σ) :
    ((do return f (← action)) state).state = (action state).state := by
  change ((f <$> action) state).state = _
  rw [Action.map_apply]

/-- All that can come of registering a file system. -/
theorem newFileSystem_cases (before : Provider) (key : String) (config : Config) :
    (∃ other, before.registry.lookup key = some other ∧ (newFileSystem key config before).outcome =
      (.error (.alreadyExists ("file system " ++ key)), before)) ∨
    (before.registry.lookup key = none ∧ ∃ error, config.validate = .error error ∧
      (newFileSystem key config before).outcome = (.error error, before)) ∨
    (before.registry.lookup key = none ∧ config.validate = .ok () ∧ ∃ fs graph,
      (FileSystem.build key config true before.graph).outcome = (.ok fs, graph) ∧
      (newFileSystem key config before).outcome = (.ok before.systems.size,
        (before.withSystem fs graph).withKey key before.systems.size)) := by
  cases taken : before.registry.lookup key with
  | some other => exact .inl ⟨other, rfl, outcome_newFileSystem_of_taken taken config⟩
  | none =>
    cases valid : config.validate with
    | error error => exact .inr (.inl ⟨rfl, error, rfl, outcome_newFileSystem_of_invalid taken valid⟩)
    | ok =>
      obtain ⟨fs, graph, built⟩ := FileSystem.exists_build valid key true before.graph
      exact .inr (.inr ⟨rfl, rfl, fs, graph, built, outcome_newFileSystem_of_build taken built⟩)

/-- A key that is taken is refused whatever the configuration, and one that is free is refused for the
configuration alone. -/
theorem newFileSystem_eq_error_iff (before : Provider) (key : String) (config : Config)
    (error : FsError) : (newFileSystem key config before).answer = .error error ↔
      (∃ other, before.registry.lookup key = some other) ∧
          error = .alreadyExists ("file system " ++ key) ∨
        before.registry.lookup key = none ∧ config.validate = .error error := by
  change (newFileSystem key config before).outcome.1 = _ ↔ _
  rcases newFileSystem_cases before key config with
    ⟨other, taken, made⟩ | ⟨free, actual, invalid, made⟩ | ⟨free, valid, _, _, -, made⟩
  · simp [made, taken, eq_comm]
  · simp [made, free, invalid]
  · simp [made, free, valid]

theorem state_of_newFileSystem_error
    (failed : (newFileSystem key config before).answer = .error error) :
    (newFileSystem key config before).state = before := by
  change (newFileSystem key config before).outcome.1 = _ at failed
  change (newFileSystem key config before).outcome.2 = _
  rcases newFileSystem_cases before key config with
    ⟨other, -, made⟩ | ⟨-, _, -, made⟩ | ⟨-, -, _, _, -, made⟩
  · rw [made]
  · rw [made]
  · rw [made] at failed
    cases failed

theorem registered_of_newFileSystem {id : SystemId}
    (succeeded : (newFileSystem key config before).answer = .ok id) :
    before.registry.lookup key = none ∧
      ∃ fs, (newFileSystem key config before).state.system? id = some fs ∧ fs.key = key ∧
        fs.isOpen = true ∧ ∀ other, (newFileSystem key config before).state.registry.lookup other =
          if other = key then some id else before.registry.lookup other := by
  change (newFileSystem key config before).outcome.1 = _ at succeeded
  change _ ∧ ∃ fs, (newFileSystem key config before).outcome.2.system? id = _ ∧ _ ∧ _ ∧
    ∀ other, (newFileSystem key config before).outcome.2.registry.lookup other = _
  rcases newFileSystem_cases before key config with
    ⟨_, -, made⟩ | ⟨-, _, -, made⟩ | ⟨free, -, fs, graph, built, made⟩
  · rw [made] at succeeded
    cases succeeded
  · rw [made] at succeeded
    cases succeeded
  · rw [made] at succeeded ⊢
    cases succeeded
    have added : (before.withSystem fs graph).system? before.systems.size = some fs := by
      rw [system?_withSystem, if_pos rfl]
    obtain ⟨_, _, -, rfl, -⟩ := FileSystem.build_eq_ok built
    exact ⟨free, _, added, rfl, rfl, fun other => lookup_withKey _ key other _⟩

theorem consequence_of_newFileSystem (before : Provider) (key : String) (config : Config) :
    Consequence before (.newFileSystem key config) (newFileSystem key config before).state := by
  change Consequence before _ (newFileSystem key config before).outcome.2
  rcases newFileSystem_cases before key config with
    ⟨other, -, made⟩ | ⟨-, error, -, made⟩ | ⟨free, -, fs, graph, built, made⟩
  · rw [made]
    exact .nothing _
  · rw [made]
    exact .nothing _
  · rw [made]
    exact .registered free built

theorem consequence_of_newDetached (before : Provider) (key : String) (config : Config) :
    Consequence before (.newDetached key config) (newDetached key config before).state := by
  change Consequence before _ (construct key config false before).outcome.2
  cases valid : config.validate with
  | error error =>
    rw [outcome_construct_of_invalid valid]
    exact .nothing _
  | ok =>
    obtain ⟨fs, graph, built⟩ := FileSystem.exists_build valid key false before.graph
    rw [outcome_construct_of_build built]
    exact .detached built

theorem consequence_of_operate (before : Provider) (id : SystemId) (operation : Operation) :
    Consequence before (.operate id operation) (operate id operation before).state := by
  change Consequence before _ (operate id operation before).outcome.2
  cases operation with
  | request request =>
    cases there : before.system? id with
    | none =>
      rw [operate, outcome_map_request_of_none there]
      exact .nothing _
    | some fs =>
      rw [outcome_operate_request there]
      exact .served there request
  | inquire inquiry =>
    cases there : before.system? id with
    | none =>
      rw [operate, outcome_map_request_of_none there]
      exact .nothing _
    | some fs =>
      rw [outcome_operate_inquire there]
      exact .nothing _
  | setRoots table =>
    rw [outcome_operate_setRoots]
    exact .rerooted id table
  | close =>
    rw [outcome_operate_close]
    cases there : before.system? id with
    | none =>
      rw [state_close_of_none there]
      exact .nothing _
    | some fs =>
      rw [state_close there]
      split
      · rename_i due
        exact .retired there due
      · rename_i idle
        exact .shut there idle

theorem consequence_of_obey (before : Provider) (command : Command) :
    Consequence before command (obey command before).state := by
  cases command with
  | newFileSystem key config =>
    rw [obey, state_of_map]
    exact consequence_of_newFileSystem before key config
  | newDetached key config =>
    rw [obey, state_of_map]
    exact consequence_of_newDetached before key config
  | getFileSystem key =>
    have kept : (obey (.getFileSystem key) before).outcome.2 = before := by
      rw [obey, Action.outcome_bind, Action.outcome_inspect]
      cases before.lookup key <;> rfl
    change Consequence before _ (obey (.getFileSystem key) before).outcome.2
    rw [kept]
    exact .nothing _
  | deregister key =>
    have removed : (obey (.deregister key) before).outcome.2 = before.withoutKey key := by
      rw [obey, Action.outcome_bind, outcome_deregister]
      rfl
    change Consequence before _ (obey (.deregister key) before).outcome.2
    rw [removed]
    exact .deregistered key
  | dropRegistry => exact .dropped
  | operate id operation => exact consequence_of_operate before id operation

/-- Requests do not do away with file systems, nor do they put any in their places. -/
theorem system?_after_request (provider : Provider) (now : Int) (id : SystemId) (request : Request)
    (other : SystemId) : (provider.after (now, .operate id (.request request))).system? other =
      provider.system? other := by
  have consequence := consequence_of_obey (provider.atTime now) (.operate id (.request request))
  unfold after
  generalize (obey (.operate id (.request request)) (provider.atTime now)).state = later
    at consequence
  cases consequence <;> rfl

theorem after_newFileSystem {provider : Provider} {fs : FileSystem} {graph : Graph} {key : String}
    {config : Config} {now : Int} (free : provider.registry.lookup key = none)
    (built : (FileSystem.build key config true (provider.atTime now).graph).outcome =
      (.ok fs, graph)) :
    provider.after (now, .newFileSystem key config) =
      (provider.withSystem fs graph).withKey key provider.systems.size := by
  have free : (provider.atTime now).registry.lookup key = none := free
  have registered := outcome_newFileSystem_of_build free built
  exact (state_of_map _ _ _).trans (congrArg Prod.snd registered)

section Asked

variable {provider : Provider} {id : SystemId} {fs : FileSystem}
  (there : provider.system? id = some fs) (now : Int) (request : Request)

include there

theorem after_request : provider.after (now, .operate id (.request request)) =
    { provider with graph := (fs.serve request (provider.atTime now).graph).state } := by
  have there : (provider.atTime now).system? id = some fs := there
  exact congrArg Prod.snd (outcome_operate_request there request)

theorem reply_request : provider.reply (now, .operate id (.request request)) =
    (fs.serve request (provider.atTime now).graph).answer.map .answer := by
  have there : (provider.atTime now).system? id = some fs := there
  exact congrArg Prod.fst (outcome_operate_request there request)

end Asked

end Provider

end CoupledFs
