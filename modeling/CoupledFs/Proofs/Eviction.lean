import CoupledFs.Proofs.Session

/-! Keys that are taken away from file systems. Closing a file system takes its key out of use, whichever
file system the key leads to by then; it leads to another one only after a key was taken out of use
without closing. -/

namespace CoupledFs

namespace Provider

variable {provider before after : Provider} {id : SystemId} {fs : FileSystem} {key : String}

/-- A file system that takes a key out of use when it is closed. -/
def Frees (provider : Provider) (id : SystemId) (key : String) : Prop :=
  provider.hasRegistry = true ∧ ∃ fs, provider.system? id = some fs ∧ fs.isOpen = true ∧
    fs.registered = true ∧ fs.key = key

/-- A key that leads to whatever file system takes it out of use when it is closed. -/
def Holds (provider : Provider) (key : String) : Prop :=
  ∀ ⦃id⦄, provider.Frees id key → provider.registry.lookup key = some id

/-! ### What closing does to keys -/

theorem lookup_close_of_frees (frees : provider.Frees id key) :
    (close id provider).state.lookup key = .error (.unknownFileSystem key) := by
  obtain ⟨hasRegistry, fs, there, opened, registered, rfl⟩ := frees
  rw [state_close there, if_pos ⟨opened, registered, hasRegistry⟩, Provider.lookup, lookup_withoutKey,
    if_pos rfl]

theorem lookup_close_of_not_frees (spares : ¬ provider.Frees id key) :
    (close id provider).state.lookup key = provider.lookup key := by
  cases there : provider.system? id with
  | none =>
    rw [state_close_of_none there]
  | some fs =>
    rw [state_close there]
    split
    · rename_i due
      have other : key ≠ fs.key := by
        rintro rfl
        exact spares ⟨due.2.2, fs, there, due.1, due.2.1, rfl⟩
      rw [Provider.lookup, lookup_withoutKey, if_neg other]
      rfl
    · rfl

/-! ### What keeps keys with their file systems -/

theorem Frees.of_withShut (frees : (before.withShut id).Frees other key) :
    other ≠ id ∧ before.Frees other key := by
  obtain ⟨hasRegistry, fs, there, opened, registered, same⟩ := frees
  rw [system?_withShut] at there
  split at there
  · obtain ⟨earlier, -, rfl⟩ := Option.map_eq_some_iff.mp there
    cases opened
  · rename_i apart
    exact ⟨apart, hasRegistry, fs, there, opened, registered, same⟩

theorem Holds.withShut (holds : before.Holds key) (id : SystemId) :
    (before.withShut id).Holds key :=
  fun _ frees => holds frees.of_withShut.2

theorem Holds.withRoots (holds : before.Holds key) (id : SystemId) (table : RootTable) :
    (before.withRoots id table).Holds key := by
  rintro other ⟨hasRegistry, fs, there, opened, registered, same⟩
  rw [system?_withRoots] at there
  split at there
  · obtain ⟨earlier, there', rfl⟩ := Option.map_eq_some_iff.mp there
    exact holds ⟨hasRegistry, earlier, there', opened, registered, same⟩
  · exact holds ⟨hasRegistry, fs, there, opened, registered, same⟩

/-- Taking a key out of use does no harm while nobody is to take it out of use later. -/
theorem Holds.withoutKey (holds : before.Holds key)
    (unused : removed = key → ∀ id, ¬ before.Frees id key) : (before.withoutKey removed).Holds key := by
  intro id frees
  have frees : before.Frees id key := frees
  rw [lookup_withoutKey, if_neg]
  · exact holds frees
  · intro same
    exact unused same.symm id frees

theorem Frees.of_withSystem {graph : Graph} (frees : (before.withSystem fs graph).Frees id key) :
    id = before.systems.size ∧ fs.registered = true ∧ fs.key = key ∨ before.Frees id key := by
  obtain ⟨hasRegistry, found, there, opened, registered, same⟩ := frees
  rw [system?_withSystem] at there
  split at there
  · cases there
    exact .inl ⟨‹_›, registered, same⟩
  · exact .inr ⟨hasRegistry, found, there, opened, registered, same⟩

theorem Holds.withKey (holds : before.Holds key) {taken : String} {graph : Graph}
    (free : before.registry.lookup taken = none) (named : fs.key = taken) :
    ((before.withSystem fs graph).withKey taken before.systems.size).Holds key := by
  intro id frees
  have frees : (before.withSystem fs graph).Frees id key := frees
  rw [lookup_withKey]
  rcases frees.of_withSystem with ⟨rfl, -, same⟩ | old
  · rw [if_pos (same.symm.trans named)]
  · have leads := holds old
    rw [if_neg]
    · exact leads
    · rintro rfl
      cases free.symm.trans leads

/-- Only taking a key out of use directly can take it away from a file system that is to take it out
of use when it is closed. -/
theorem Consequence.holds (consequence : Consequence before command after)
    (holds : before.Holds key) (undisturbed : command ≠ .deregister key) : after.Holds key := by
  cases consequence with
  | nothing | served => exact holds
  | rerooted id table => exact holds.withRoots id table
  | @shut id => exact holds.withShut id
  | @retired id fs there due =>
    refine (holds.withShut id).withoutKey ?_
    rintro rfl other frees
    -- The key led to the file system that was closed, so nobody else holds it.
    obtain ⟨apart, frees⟩ := frees.of_withShut
    have own := holds ⟨due.2.2, fs, there, due.1, due.2.1, rfl⟩
    exact apart (Option.some.inj ((holds frees).symm.trans own))
  | deregistered other =>
    refine holds.withoutKey ?_
    rintro rfl
    exact absurd rfl undisturbed
  | dropped =>
    rintro id ⟨hasRegistry, -⟩
    cases hasRegistry
  | detached built =>
    obtain ⟨_, _, -, rfl, -⟩ := FileSystem.build_eq_ok built
    intro id frees
    rcases frees.of_withSystem with ⟨-, registered, -⟩ | old
    · cases registered
    · exact holds old
  | registered free built =>
    obtain ⟨_, _, -, rfl, -⟩ := FileSystem.build_eq_ok built
    exact holds.withKey free rfl

theorem holds_afterAll (steps : List (Int × Command))
    (undisturbed : ∀ step ∈ steps, step.2 ≠ .deregister key) :
    (({} : Provider).afterAll steps).Holds key := by
  induction steps using List.reverseRecOn with
  | nil =>
    rintro id ⟨-, fs, there, -⟩
    simp [afterAll, system?] at there
  | append_singleton steps step ih =>
    rw [afterAll_concat]
    have earlier : (({} : Provider).afterAll steps).Holds key :=
      ih fun step member => undisturbed step (List.mem_append_left _ member)
    have last := undisturbed step (List.mem_append_right _ List.mem_cons_self)
    have timed : ((({} : Provider).afterAll steps).atTime step.1).Holds key := earlier
    exact (consequence_of_obey _ step.2).holds timed last

/-- Closing a file system takes a key away from another one if and only if it is the first to close
it, and the key is the one under which it was registered itself; and then the key was taken out of
use directly at some time. -/
theorem close_evicts_iff (steps : List (Int × Command)) {id other : SystemId}
    (mapped : (({} : Provider).afterAll steps).lookup key = .ok other) (apart : other ≠ id) :
    ((close id (({} : Provider).afterAll steps)).state.lookup key ≠ .ok other ↔
        (({} : Provider).afterAll steps).Frees id key) ∧
      ((({} : Provider).afterAll steps).Frees id key → ∃ now, (now, .deregister key) ∈ steps) := by
  constructor
  · constructor
    · intro evicted
      by_contra spares
      rw [lookup_close_of_not_frees spares] at evicted
      exact evicted mapped
    · intro frees
      rw [lookup_close_of_frees frees]
      simp
  · intro frees
    by_contra never
    have undisturbed : ∀ step ∈ steps, step.2 ≠ .deregister key := by
      rintro ⟨now, command⟩ member rfl
      exact never ⟨now, member⟩
    have leads := lookup_eq_ok_iff.mp mapped
    have own := holds_afterAll steps undisturbed frees
    exact apart (Option.some.inj (leads.symm.trans own))

/-- A file system whose key was taken out of use and given to another takes it from the other when it
is closed. -/
theorem close_evicts_iff_replaced :
    let steps : List (Int × Command) :=
      [(1, .newFileSystem "key" .unix), (2, .deregister "key"), (3, .newFileSystem "key" .unix)]
    let provider := ({} : Provider).afterAll steps
    provider.lookup "key" = .ok 1 ∧ (1 : SystemId) ≠ 0 ∧
      (close 0 provider).state.lookup "key" ≠ .ok 1 ∧ ∃ now, (now, .deregister "key") ∈ steps := by
  intro steps provider
  have mapped : provider.lookup "key" = .ok 1 := rfl
  have apart : (1 : SystemId) ≠ 0 := by decide
  obtain ⟨evicts, disturbed⟩ := close_evicts_iff steps mapped apart
  have frees : provider.Frees 0 "key" := ⟨rfl, _, rfl, rfl, rfl, rfl⟩
  exact ⟨mapped, apart, evicts.mpr frees, disturbed frees⟩

/-- A key that leads to another file system is not safe from closing. -/
theorem not_close_spares_others :
    ¬ ∀ (steps : List (Int × Command)) (id other : SystemId) (key : String),
      (({} : Provider).afterAll steps).lookup key = .ok other → other ≠ id →
        (close id (({} : Provider).afterAll steps)).state.lookup key = .ok other := by
  intro spares
  let steps : List (Int × Command) :=
    [(1, .newFileSystem "key" .unix), (2, .deregister "key"), (3, .newFileSystem "key" .unix)]
  have frees : (({} : Provider).afterAll steps).Frees 0 "key" := ⟨rfl, _, rfl, rfl, rfl, rfl⟩
  have kept := spares steps 0 1 "key" rfl (by decide)
  rw [lookup_close_of_frees frees] at kept
  cases kept

end Provider

end CoupledFs
