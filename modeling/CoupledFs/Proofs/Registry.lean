import CoupledFs.Proofs.Building
import CoupledFs.Provider

/-! What becomes of the file systems of a provider, and of the keys that lead to them. -/

namespace CoupledFs

theorem FileSystem.outcome_build_of_invalid {config : Config}
    (invalid : config.validate = .error error) (key : String) (registered : Bool)
    (before : Graph) : (build key config registered before).outcome = (.error error, before) := by
  rw [build, Action.outcome_bind, invalid]
  rfl

namespace Provider

variable {provider : Provider} {id : SystemId} {fs : FileSystem} {key : String} {config : Config}

theorem filter_key_of_lookup {registry : List (String × SystemId)}
    (free : registry.lookup key = none) : registry.filter (·.1 ≠ key) = registry := by
  apply List.filter_eq_self.mpr
  rintro ⟨first, system⟩ member
  have differs := List.lookup_eq_none_iff.mp free _ member
  simpa using Ne.symm (by simpa using differs)

theorem lookup_eq_ok_iff : provider.lookup key = .ok id ↔ provider.registry.lookup key = some id := by
  unfold Provider.lookup
  cases provider.registry.lookup key <;> simp

theorem outcome_request (there : provider.system? id = some fs)
    (action : FileSystem → Action Graph α) :
    (request id action provider).outcome = ((action fs provider.graph).answer,
      { provider with graph := (action fs provider.graph).state }) := by
  simp only [request, there]
  rfl

theorem outcome_request_of_none (missing : provider.system? id = none)
    (action : FileSystem → Action Graph α) :
    (request id action provider).outcome = (.error (.unknownFileSystem ""), provider) := by
  simp only [request, missing]
  rfl

/-! ### Building -/

theorem outcome_construct_of_invalid (invalid : config.validate = .error error) (key : String)
    (registered : Bool) (provider : Provider) :
    (construct key config registered provider).outcome = (.error error, provider) := by
  rw [construct, Action.outcome_bind, Action.outcome_onPart,
    FileSystem.outcome_build_of_invalid invalid]
  rfl

theorem outcome_construct_of_build {registered : Bool} {graph : Graph}
    (built : (FileSystem.build key config registered provider.graph).outcome = (.ok fs, graph)) :
    (construct key config registered provider).outcome =
      (.ok provider.systems.size, { provider with graph, systems := provider.systems.push fs }) := by
  rw [construct, Action.outcome_bind, Action.outcome_onPart, built]
  rfl

theorem outcome_newFileSystem_of_taken (taken : provider.registry.lookup key = some id)
    (config : Config) : (newFileSystem key config provider).outcome =
      (.error (.alreadyExists ("file system " ++ key)), provider) := by
  simp only [newFileSystem, Action.outcome_bind, Action.outcome_inspect, taken]
  rfl

theorem outcome_newFileSystem_of_invalid (free : provider.registry.lookup key = none)
    (invalid : config.validate = .error error) :
    (newFileSystem key config provider).outcome = (.error error, provider) := by
  simp only [newFileSystem, Action.outcome_bind, Action.outcome_inspect, free, Option.isSome_none,
    Bool.false_eq_true, if_false, outcome_construct_of_invalid invalid]

theorem outcome_newFileSystem_of_build (free : provider.registry.lookup key = none) {graph : Graph}
    (built : (FileSystem.build key config true provider.graph).outcome = (.ok fs, graph)) :
    (newFileSystem key config provider).outcome = (.ok provider.systems.size,
      { provider with
        graph
        systems := provider.systems.push fs
        registry := (key, provider.systems.size) :: provider.registry }) := by
  simp only [newFileSystem, Action.outcome_bind, Action.outcome_inspect, free, Option.isSome_none,
    Bool.false_eq_true, if_false, outcome_construct_of_build built]
  rfl

/-! ### Closing -/

/-- The provider in which a file system no longer serves requests. -/
def withShut (provider : Provider) (id : SystemId) : Provider :=
  { provider with systems := provider.systems.modify id ({ · with lifecycle := ⟨false⟩ }) }

def withoutKey (provider : Provider) (key : String) : Provider :=
  { provider with registry := provider.registry.filter (·.1 ≠ key) }

theorem lookup_withoutKey (provider : Provider) (key other : String) :
    (provider.withoutKey key).registry.lookup other =
      if other = key then none else provider.registry.lookup other := by
  unfold withoutKey
  induction provider.registry with
  | nil => simp
  | cons entry rest ih =>
    obtain ⟨first, system⟩ := entry
    by_cases removed : first = key
    · rw [List.filter_cons_of_neg (by simpa using removed), ih]
      by_cases asked : other = key
      · simp [asked]
      · have differs : (other == first) = false := by simpa [removed] using asked
        simp [asked, List.lookup_cons, differs]
    · rw [List.filter_cons_of_pos (by simpa using removed), List.lookup_cons, List.lookup_cons, ih]
      by_cases found : other = first
      · subst other
        simp [removed]
      · have differs : (other == first) = false := by simpa using found
        simp [differs]

theorem lookup_withoutKey_eq_some {other : String} :
    (provider.withoutKey key).registry.lookup other = some id ↔
      other ≠ key ∧ provider.registry.lookup other = some id := by
  rw [lookup_withoutKey]
  split <;> simp_all

theorem system?_withShut (provider : Provider) (id other : SystemId) :
    (provider.withShut id).system? other = if other = id
      then (provider.system? other).map ({ · with lifecycle := ⟨false⟩ })
      else provider.system? other := by
  unfold withShut system?
  by_cases same : other = id
  · simp [Array.getElem?_modify, same]
  · simp [Array.getElem?_modify, same, Ne.symm same]

theorem system?_withShut_eq_some {other : SystemId} :
    (provider.withShut id).system? other = some fs ↔ ∃ old, provider.system? other = some old ∧
      fs = if other = id then { old with lifecycle := ⟨false⟩ } else old := by
  rw [system?_withShut]
  split
  · rw [Option.map_eq_some_iff]
    exact exists_congr fun _ => and_congr_right fun _ => eq_comm
  · simp

theorem system?_withShut_self (there : provider.system? id = some fs) :
    (provider.withShut id).system? id = some { fs with lifecycle := ⟨false⟩ } := by
  rw [system?_withShut, if_pos rfl, there]
  rfl

theorem system?_withShut_of_closed (there : provider.system? id = some fs)
    (closed : fs.isOpen = false) (other : SystemId) :
    (provider.withShut other).system? id = some fs := by
  have same : { fs with lifecycle := ⟨false⟩ } = fs := by
    rw [← closed]
    rfl
  rw [system?_withShut_eq_some]
  refine ⟨fs, there, ?_⟩
  rw [same, ite_self]

theorem withShut_eq_self (kept : ∀ other, (provider.withShut id).system? other = provider.system? other) :
    provider.withShut id = provider :=
  congrArg (fun systems => { provider with systems }) (Array.ext_getElem? kept)

theorem withShut_of_closed (there : provider.system? id = some fs) (closed : fs.isOpen = false) :
    provider.withShut id = provider := by
  apply withShut_eq_self
  intro other
  by_cases shut : other = id
  · rw [shut, there, system?_withShut_of_closed there closed]
  · rw [system?_withShut, if_neg shut]

theorem withShut_of_none (missing : provider.system? id = none) :
    provider.withShut id = provider := by
  apply withShut_eq_self
  intro other
  by_cases shut : other = id
  · rw [system?_withShut, if_pos shut, shut, missing]
    rfl
  · rw [system?_withShut, if_neg shut]

/-- What is left to do for whoever closes a file system first. -/
def retire (id : SystemId) : Action Provider Unit := do
  match ← Action.inspect (·.system? id) with
  | some fs =>
    if fs.registered ∧ (← Action.inspect hasRegistry) then
      deregister fs.key
    Action.report (.systemClosed fs.key)
  | none => return

theorem close_eq (id : SystemId) : close id = (do if ← shut id then retire id) :=
  rfl

theorem outcome_shut (there : provider.system? id = some fs) :
    (shut id provider).outcome = (.ok fs.isOpen, provider.withShut id) := by
  simp only [shut, bind, Action.inspect, there]
  rfl

theorem outcome_shut_of_none (missing : provider.system? id = none) :
    (shut id provider).outcome = (.ok false, provider) := by
  simp only [shut, bind, Action.inspect, missing]
  rfl

theorem outcome_deregister (key : String) (provider : Provider) :
    (deregister key provider).outcome = (.ok (), provider.withoutKey key) := by
  simp only [deregister, bind, Action.inspect]
  cases leads : provider.registry.lookup key with
  | none =>
    have kept : provider.withoutKey key = provider := by
      rw [withoutKey, filter_key_of_lookup leads]
    rw [kept]
    rfl
  | some system => rfl

/-- Whoever closes a file system first takes its key out of use, if it is in use at all. -/
theorem outcome_retire (there : provider.system? id = some fs) :
    (retire id provider).outcome = (.ok (),
      if fs.registered ∧ provider.hasRegistry then provider.withoutKey fs.key else provider) := by
  rw [retire, Action.outcome_bind, Action.outcome_inspect, there]
  simp only [Action.outcome_bind, Action.outcome_inspect]
  split
  · simp only [Action.outcome_bind, outcome_deregister]
    rfl
  · rfl

theorem outcome_close_eq (there : provider.system? id = some fs) :
    (close id provider).outcome = (.ok (),
      if fs.isOpen ∧ fs.registered ∧ provider.hasRegistry
        then (provider.withShut id).withoutKey fs.key
        else provider.withShut id) := by
  have there' := system?_withShut_self there
  rw [close_eq, Action.outcome_bind, outcome_shut there]
  cases fs.isOpen with
  | false => simp [pure, Reply.outcome]
  | true =>
    simp only [if_true, outcome_retire there', true_and]
    rfl

theorem outcome_close_of_none (missing : provider.system? id = none) :
    (close id provider).outcome = (.ok (), provider) := by
  rw [close_eq, Action.outcome_bind, outcome_shut_of_none missing]
  rfl

theorem state_close (there : provider.system? id = some fs) : (close id provider).state =
    if fs.isOpen ∧ fs.registered ∧ provider.hasRegistry
      then (provider.withShut id).withoutKey fs.key
      else provider.withShut id :=
  congrArg Prod.snd (outcome_close_eq there)

theorem state_close_of_none (missing : provider.system? id = none) :
    (close id provider).state = provider :=
  congrArg Prod.snd (outcome_close_of_none missing)

/-- Closing a file system succeeds, and does nothing to its trees. -/
theorem outcome_close (there : provider.system? id = some fs) :
    ∃ after, (close id provider).outcome = (.ok (), after) ∧ after.graph = provider.graph ∧
      after.system? id = some { fs with lifecycle := ⟨false⟩ } := by
  have shut := system?_withShut_self there
  refine ⟨_, outcome_close_eq there, ?_⟩
  split
  · exact ⟨rfl, shut⟩
  · exact ⟨rfl, shut⟩

end Provider

end CoupledFs
