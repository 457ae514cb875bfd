import CoupledFs.Proofs.Eviction
import Mathlib.Data.List.Nodup
import Mathlib.Logic.Function.Basic

/-! Threads that register and close file systems at the same time. Registering is a single step; between
the two steps of closing, the others can do as they like. Yet the registry never leads to a file system
that is neither open nor about to be removed, and no removal hits another file system. -/

namespace CoupledFs

open Provider

/-- A provider, and how far threads are with closing its file systems. -/
structure Turnover (ι : Type) where
  provider : Provider := {}
  /-- The file system that a thread has closed and has still to remove. -/
  pending : ι → Option SystemId := fun _ => none
  /-- The file systems that were removed, the last one first. -/
  removed : List SystemId := []

namespace Turnover

variable {ι : Type} {s s' : Turnover ι} {thread : ι} {id : SystemId} {key : String} {fs : FileSystem}

/-- What a thread can do next. Whoever was the first to close a file system goes on to remove it, which
is all that is left of `Provider.close` then. -/
inductive Step [DecidableEq ι] : Turnover ι → Turnover ι → Prop where
  | create {s : Turnover ι} (thread : ι) (idle : s.pending thread = none) (now : Int) (key : String)
      (config : Config) :
      Step s { s with provider := (newFileSystem key config (s.provider.atTime now)).state }
  | shut {s : Turnover ι} (thread : ι) (idle : s.pending thread = none) (id : SystemId) :
      Step s { s with
        provider := (Provider.shut id s.provider).state
        pending := match (Provider.shut id s.provider).answer with
          | .ok true => Function.update s.pending thread (some id)
          | .ok false | .error _ => s.pending }
  | retire {s : Turnover ι} (thread : ι) {id : SystemId} (due : s.pending thread = some id) :
      Step s ⟨(Provider.retire id s.provider).state, Function.update s.pending thread none,
        id :: s.removed⟩

/-- What threads can come to together, from an empty registry on. -/
inductive Reachable [DecidableEq ι] : Turnover ι → Prop where
  | start : Reachable {}
  | step {s s' : Turnover ι} (reached : Reachable s) (taken : Step s s') : Reachable s'

/-- What every step keeps up. A file system has its key until it is removed, and a thread that is to
remove it for as long as it has its key without being open. -/
structure Consistent (s : Turnover ι) : Prop where
  hasRegistry : s.provider.hasRegistry = true
  registered : ∀ ⦃id fs⦄, s.provider.system? id = some fs → fs.registered = true
  own : ∀ ⦃key id⦄, s.provider.registry.lookup key = some id →
    ∃ fs, s.provider.system? id = some fs ∧ fs.key = key
  holds : ∀ key, s.provider.Holds key
  awaited : ∀ ⦃key id fs⦄, s.provider.registry.lookup key = some id →
    s.provider.system? id = some fs → fs.isOpen = false → ∃ thread, s.pending thread = some id
  alone : ∀ ⦃thread other id⦄, s.pending thread = some id → s.pending other = some id →
    thread = other
  shut : ∀ ⦃thread id⦄, s.pending thread = some id → ∃ fs, s.provider.system? id = some fs ∧
    fs.isOpen = false ∧ s.provider.registry.lookup fs.key = some id
  gone : ∀ ⦃id⦄, id ∈ s.removed → ∃ fs, s.provider.system? id = some fs ∧ fs.isOpen = false ∧
    s.provider.registry.lookup fs.key ≠ some id
  once : s.removed.Nodup

theorem consistent_empty : ({} : Turnover ι).Consistent where
  hasRegistry := rfl
  registered := fun _ _ there => by simp [system?] at there
  own := fun _ _ leads => by simp at leads
  holds := fun _ _ frees => by
    obtain ⟨-, fs, there, -⟩ := frees
    simp [system?] at there
  awaited := fun _ _ _ leads => by simp at leads
  alone := fun _ _ _ due => by cases due
  shut := fun _ _ due => by cases due
  gone := fun _ member => by cases member
  once := List.nodup_nil

namespace Consistent

theorem atTime (valid : s.Consistent) (now : Int) :
    { s with provider := s.provider.atTime now }.Consistent :=
  ⟨valid.hasRegistry, valid.registered, valid.own, valid.holds, valid.awaited, valid.alone,
    valid.shut, valid.gone, valid.once⟩

theorem lookup_of_open (valid : s.Consistent) (there : s.provider.system? id = some fs)
    (opened : fs.isOpen = true) : s.provider.registry.lookup fs.key = some id :=
  valid.holds fs.key ⟨valid.hasRegistry, fs, there, opened, valid.registered there, rfl⟩

theorem closed_of_pending (valid : s.Consistent) (due : s.pending thread = some id)
    (there : s.provider.system? id = some fs) :
    fs.isOpen = false ∧ s.provider.registry.lookup fs.key = some id := by
  obtain ⟨found, there', closed, leads⟩ := valid.shut due
  cases there.symm.trans there'
  exact ⟨closed, leads⟩

/-- Registering a file system under a free key concerns neither the others nor who removes them. -/
theorem register (valid : s.Consistent) {config : Config} {graph : Graph}
    (free : s.provider.registry.lookup key = none)
    (built : (FileSystem.build key config true s.provider.graph).outcome = (.ok fs, graph)) :
    { s with
      provider := (s.provider.withSystem fs graph).withKey key s.provider.systems.size }.Consistent := by
  obtain ⟨named, opened, listed⟩ : fs.key = key ∧ fs.isOpen = true ∧ fs.registered = true := by
    obtain ⟨_, _, -, rfl, -⟩ := FileSystem.build_eq_ok built
    exact ⟨rfl, rfl, rfl⟩
  have kept {id : SystemId} {old : FileSystem} (there : s.provider.system? id = some old) :=
    system?_withSystem_of_some there fs graph
  have added : (s.provider.withSystem fs graph).system? s.provider.systems.size = some fs := by
    rw [system?_withSystem, if_pos rfl]
  -- A key that leads somewhere is not the one that was free.
  have led {other : String} {id : SystemId} (leads : s.provider.registry.lookup other = some id) :
      other ≠ key := by
    rintro rfl
    cases free.symm.trans leads
  refine ⟨valid.hasRegistry, ?registered, ?own, fun key => (valid.holds key).withKey free named,
    ?awaited, valid.alone, ?shut, ?gone, valid.once⟩
  case registered =>
    intro id found there
    have there : (s.provider.withSystem fs graph).system? id = some found := there
    rw [system?_withSystem] at there
    split at there
    · cases there
      exact listed
    · exact valid.registered there
  case own =>
    intro other id leads
    rw [lookup_withKey] at leads
    split at leads
    · cases leads
      exact ⟨fs, added, named.trans (Eq.symm ‹_›)⟩
    · obtain ⟨old, there, same⟩ := valid.own leads
      exact ⟨old, kept there, same⟩
  case awaited =>
    intro other id found leads there closed
    rw [lookup_withKey] at leads
    split at leads
    · cases leads
      cases added.symm.trans there
      rw [opened] at closed
      cases closed
    · obtain ⟨old, there', -⟩ := valid.own leads
      cases (kept there').symm.trans there
      exact valid.awaited leads there' closed
  case shut =>
    intro thread id due
    obtain ⟨old, there, closed, leads⟩ := valid.shut due
    refine ⟨old, kept there, closed, ?_⟩
    rw [lookup_withKey, if_neg (led leads)]
    exact leads
  case gone =>
    intro id member
    obtain ⟨old, there, closed, astray⟩ := valid.gone member
    refine ⟨old, kept there, closed, ?_⟩
    rw [lookup_withKey]
    split
    · rintro ⟨⟩
      cases added.symm.trans (kept there)
      rw [opened] at closed
      cases closed
    · exact astray

variable [DecidableEq ι]

/-- The first to close a file system is the one to remove it. -/
theorem close (valid : s.Consistent) (idle : s.pending thread = none)
    (there : s.provider.system? id = some fs) (opened : fs.isOpen = true) :
    { s with
      provider := s.provider.withShut id
      pending := Function.update s.pending thread (some id) }.Consistent := by
  -- Nobody was about to remove a file system that was open.
  have others {other : ι} {removing : SystemId}
      (due : Function.update s.pending thread (some id) other = some removing) :
      other = thread ∧ removing = id ∨
        other ≠ thread ∧ removing ≠ id ∧ s.pending other = some removing := by
    by_cases same : other = thread
    · subst other
      rw [Function.update_self] at due
      exact .inl ⟨rfl, (Option.some.inj due).symm⟩
    · rw [Function.update_of_ne same] at due
      refine .inr ⟨same, ?_, due⟩
      rintro rfl
      rw [(valid.closed_of_pending due there).1] at opened
      cases opened
  refine ⟨valid.hasRegistry, ?registered, ?own, fun key => (valid.holds key).withShut id,
    ?awaited, ?alone, ?shut, ?gone, valid.once⟩
  case registered =>
    intro other found now
    obtain ⟨old, there', rfl⟩ := system?_withShut_eq_some.mp now
    have listed := valid.registered there'
    split <;> exact listed
  case own =>
    intro key other leads
    obtain ⟨old, there', named⟩ := valid.own leads
    refine ⟨_, system?_withShut_eq_some.mpr ⟨old, there', rfl⟩, ?_⟩
    split <;> exact named
  case awaited =>
    intro key other found leads now closed
    obtain ⟨old, there', rfl⟩ := system?_withShut_eq_some.mp now
    by_cases same : other = id
    · subst other
      exact ⟨thread, Function.update_self thread _ _⟩
    · rw [if_neg same] at closed
      obtain ⟨waiting, due⟩ := valid.awaited leads there' closed
      have apart : waiting ≠ thread := by
        rintro rfl
        cases idle.symm.trans due
      exact ⟨waiting, (Function.update_of_ne apart _ _).trans due⟩
  case alone =>
    intro first second removing due due'
    rcases others due with ⟨rfl, rfl⟩ | ⟨apart, differs, due⟩
    · rcases others due' with ⟨rfl, -⟩ | ⟨-, differs, -⟩
      · rfl
      · exact absurd rfl differs
    · rcases others due' with ⟨rfl, rfl⟩ | ⟨-, -, due'⟩
      · exact absurd rfl differs
      · exact valid.alone due due'
  case shut =>
    intro other removing due
    rcases others due with ⟨rfl, rfl⟩ | ⟨-, -, due⟩
    · have leads := valid.lookup_of_open there opened
      exact ⟨_, system?_withShut_self there, rfl, leads⟩
    · obtain ⟨old, there', closed, leads⟩ := valid.shut due
      exact ⟨old, system?_withShut_of_closed there' closed id, closed, leads⟩
  case gone =>
    intro other member
    obtain ⟨old, there', closed, astray⟩ := valid.gone member
    exact ⟨old, system?_withShut_of_closed there' closed id, closed, astray⟩

/-- A thread removes the file system that it closed, and no other. -/
theorem remove (valid : s.Consistent) (due : s.pending thread = some id)
    (there : s.provider.system? id = some fs) :
    (⟨s.provider.withoutKey fs.key, Function.update s.pending thread none, id :: s.removed⟩ :
      Turnover ι).Consistent := by
  obtain ⟨closed, mapped⟩ := valid.closed_of_pending due there
  have others {other : ι} {removing : SystemId}
      (left : Function.update s.pending thread none other = some removing) :
      other ≠ thread ∧ s.pending other = some removing := by
    by_cases same : other = thread
    · subst other
      rw [Function.update_self] at left
      cases left
    · rw [Function.update_of_ne same] at left
      exact ⟨same, left⟩
  refine ⟨valid.hasRegistry, valid.registered, ?own, ?holds, ?awaited, ?alone, ?shut, ?gone, ?once⟩
  case own =>
    intro key other leads
    exact valid.own (lookup_withoutKey_eq_some.mp leads).2
  case holds =>
    intro key
    refine (valid.holds key).withoutKey ?_
    rintro rfl other frees
    have leads := valid.holds _ frees
    obtain ⟨-, found, there', opened, -⟩ := frees
    -- Only the file system that is removed could hold its key, and it is closed.
    cases mapped.symm.trans leads
    cases there.symm.trans there'
    rw [closed] at opened
    cases opened
  case awaited =>
    intro key other found leads there' shut
    obtain ⟨differs, before⟩ := lookup_withoutKey_eq_some.mp leads
    obtain ⟨waiting, due'⟩ := valid.awaited before there' shut
    have apart : waiting ≠ thread := by
      rintro rfl
      cases due.symm.trans due'
      obtain ⟨own, there'', named⟩ := valid.own before
      cases there.symm.trans there''
      exact differs named.symm
    exact ⟨waiting, (Function.update_of_ne apart _ _).trans due'⟩
  case alone =>
    intro first second removing left left'
    exact valid.alone (others left).2 (others left').2
  case shut =>
    intro other removing left
    obtain ⟨apart, due'⟩ := others left
    obtain ⟨found, there', shut, leads⟩ := valid.shut due'
    have differs : found.key ≠ fs.key := by
      intro same
      rw [same] at leads
      cases mapped.symm.trans leads
      exact apart (valid.alone due' due)
    exact ⟨found, there', shut, lookup_withoutKey_eq_some.mpr ⟨differs, leads⟩⟩
  case gone =>
    intro other member
    rcases List.mem_cons.mp member with rfl | member
    · refine ⟨fs, there, closed, ?_⟩
      intro leads
      exact (lookup_withoutKey_eq_some.mp leads).1 rfl
    · obtain ⟨found, there', shut, astray⟩ := valid.gone member
      refine ⟨found, there', shut, ?_⟩
      intro leads
      exact astray (lookup_withoutKey_eq_some.mp leads).2
  case once =>
    refine List.nodup_cons.mpr ⟨?_, valid.once⟩
    intro member
    obtain ⟨found, there', -, astray⟩ := valid.gone member
    cases there.symm.trans there'
    exact astray mapped

/-- Which step a thread takes does not matter, nor which thread takes one. -/
theorem step (valid : s.Consistent) (taken : Step s s') : s'.Consistent := by
  cases taken with
  | create thread idle now key config =>
    have later := valid.atTime now
    have change := consequence_of_newFileSystem (s.provider.atTime now) key config
    generalize (newFileSystem key config (s.provider.atTime now)).state = after at change ⊢
    cases change with
    | nothing => exact later
    | registered free built => exact later.register free built
  | shut thread idle id =>
    cases there : s.provider.system? id with
    | none =>
      obtain ⟨answer, state⟩ := Prod.mk.inj (outcome_shut_of_none there)
      rw [answer, state]
      exact valid
    | some fs =>
      obtain ⟨answer, state⟩ := Prod.mk.inj (outcome_shut there)
      rw [answer, state]
      cases opened : fs.isOpen with
      | true => exact valid.close idle there opened
      | false =>
        rw [withShut_of_closed there opened]
        exact valid
  | retire thread due =>
    obtain ⟨fs, there, -⟩ := valid.shut due
    obtain ⟨-, state⟩ := Prod.mk.inj (outcome_retire there)
    rw [state, if_pos ⟨valid.registered there, valid.hasRegistry⟩]
    exact valid.remove due there

theorem of_reachable (reached : Reachable s) : s.Consistent := by
  induction reached with
  | start => exact consistent_empty
  | step _ taken ih => exact ih.step taken

end Consistent

/-- What the registry, the file systems and the threads that close them agree on. -/
structure Agreement (s : Turnover ι) : Prop where
  /-- A key leads to a file system that was registered under it. -/
  own : ∀ key id, s.provider.registry.lookup key = some id →
    ∃ fs, s.provider.system? id = some fs ∧ fs.key = key
  /-- A file system that is open is in the registry. -/
  opened : ∀ id fs, s.provider.system? id = some fs → fs.isOpen = true →
    s.provider.registry.lookup fs.key = some id
  /-- One that is in the registry and closed is about to be removed, by one thread. -/
  closed : ∀ key id fs, s.provider.registry.lookup key = some id →
    s.provider.system? id = some fs → fs.isOpen = false → ∃! thread, s.pending thread = some id
  /-- One that is about to be removed is closed and in the registry. -/
  due : ∀ thread id, s.pending thread = some id → ∃ fs, s.provider.system? id = some fs ∧
    fs.isOpen = false ∧ s.provider.registry.lookup fs.key = some id
  /-- Removing it does away with its key, and with no key of another. -/
  removal : ∀ thread id, s.pending thread = some id →
    (retire id s.provider).answer = .ok () ∧ ∀ key, (retire id s.provider).state.registry.lookup key =
      if s.provider.registry.lookup key = some id then none else s.provider.registry.lookup key
  /-- No file system is removed twice. -/
  once : s.removed.Nodup
  /-- A file system that is registered is open, and takes a key that was free. -/
  created : ∀ now key config id, (newFileSystem key config (s.provider.atTime now)).answer = .ok id →
    s.provider.registry.lookup key = none ∧
      ∃ fs, (newFileSystem key config (s.provider.atTime now)).state.system? id = some fs ∧
        fs.key = key ∧ fs.isOpen = true ∧
        ∀ other, (newFileSystem key config (s.provider.atTime now)).state.registry.lookup other =
          if other = key then some id else s.provider.registry.lookup other
  /-- A key that is taken is refused whatever the configuration, and one that is free is refused for
  the configuration alone. -/
  refused : ∀ now key config error,
    (newFileSystem key config (s.provider.atTime now)).answer = .error error ↔
      (∃ other, s.provider.registry.lookup key = some other) ∧
          error = .alreadyExists ("file system " ++ key) ∨
        s.provider.registry.lookup key = none ∧ config.validate = .error error
  /-- A file system that is refused leaves everything as it was. -/
  unchanged : ∀ now key config error,
    (newFileSystem key config (s.provider.atTime now)).answer = .error error →
      (newFileSystem key config (s.provider.atTime now)).state = s.provider.atTime now

/-- However threads that register and close file systems get in each other's way, the registry, the
file systems and the threads agree. -/
theorem agreement_of_reachable [DecidableEq ι] (reached : Reachable s) : s.Agreement := by
  have valid := Consistent.of_reachable reached
  refine ⟨fun _ _ leads => valid.own leads, fun _ _ there opened => valid.lookup_of_open there opened,
    ?closed, fun _ _ due => valid.shut due, ?removal, valid.once, ?created, ?refused, ?unchanged⟩
  case closed =>
    intro key id fs leads there shut
    obtain ⟨thread, due⟩ := valid.awaited leads there shut
    exact ⟨thread, due, fun other due' => valid.alone due' due⟩
  case removal =>
    intro thread id due
    obtain ⟨fs, there, -, mapped⟩ := valid.shut due
    obtain ⟨answer, state⟩ := Prod.mk.inj (outcome_retire there)
    refine ⟨answer, ?_⟩
    intro key
    rw [state, if_pos ⟨valid.registered there, valid.hasRegistry⟩, lookup_withoutKey]
    by_cases same : key = fs.key
    · rw [if_pos same, same, if_pos mapped]
    · rw [if_neg same, if_neg]
      intro leads
      obtain ⟨own, there', named⟩ := valid.own leads
      cases there.symm.trans there'
      exact same named.symm
  case created =>
    intro now key config id succeeded
    exact registered_of_newFileSystem succeeded
  case refused =>
    intro now key config error
    exact newFileSystem_eq_error_iff (s.provider.atTime now) key config error
  case unchanged =>
    intro now key config error failed
    exact state_of_newFileSystem_error failed

/-- Between the two steps of closing a file system, its key is still taken. -/
theorem agreement_between_steps_of_closing :
    ∃ s : Turnover Bool, Reachable s ∧ s.Agreement ∧ s.provider.registry.lookup "key" = some 0 ∧
      (∃! thread, s.pending thread = some 0) ∧
      (newFileSystem "key" .windows (s.provider.atTime 3)).answer =
        .error (.alreadyExists "file system key") := by
  let made : Turnover Bool :=
    { provider := (newFileSystem "key" .unix (({} : Provider).atTime 1)).state }
  let closing : Turnover Bool :=
    { provider := (Provider.shut 0 made.provider).state
      pending := Function.update (fun _ => none) true (some 0) }
  have opening : Step ({} : Turnover Bool) made := .create false rfl 1 "key" .unix
  have shutting : Step made closing := .shut true rfl 0
  have reached : Reachable closing := .step (.step .start opening) shutting
  have agreement := agreement_of_reachable reached
  have mapped : closing.provider.registry.lookup "key" = some 0 := rfl
  refine ⟨closing, reached, agreement, mapped, ?_, ?_⟩
  · exact agreement.closed "key" 0 _ mapped rfl rfl
  · exact (agreement.refused 3 "key" .windows _).mpr (.inl ⟨⟨0, mapped⟩, rfl⟩)

end Turnover

end CoupledFs
