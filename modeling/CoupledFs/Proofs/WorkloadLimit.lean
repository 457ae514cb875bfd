import CoupledFs.Proofs.WorkloadReport

/-! Workloads that are too large. A workload is refused for its size just if the directories that it
would make are too many for 64 bits. -/

namespace CoupledFs.Workload

def Request.tooLarge (request : Request) : Complaint :=
  ⟨"--depth " ++ toString request.depth ++ " with --fanout " ++ toString request.fanout ++
    " on " ++ toString request.threads ++ " threads is too large", []⟩

variable {request : Request} {content : String → Except Host.Refusal (List UInt8)}

theorem causes_ne_nil_of_loadConfig (failed : loadConfig request content = .error complaint) :
    complaint.causes ≠ [] := by
  have invalid {config : Config} (failed : (do
      config.validate.mapError fun error =>
        (Complaint.ofError error).within "invalid configuration"
      return config) = Except.error complaint) : complaint.causes ≠ [] := by
    cases checked : config.validate with
    | error error =>
      rw [checked] at failed
      cases failed
      exact List.cons_ne_nil _ _
    | ok =>
      rw [checked] at failed
      cases failed
  unfold loadConfig at failed
  cases given : request.config with
  | none =>
    rw [given] at failed
    exact invalid failed
  | some file =>
    rw [given] at failed
    cases read : readConfig (content file) with
    | error error =>
      simp only [read] at failed
      cases failed
      exact List.cons_ne_nil _ _
    | ok config =>
      simp only [read] at failed
      exact invalid failed

theorem exists_report_of_prepare (ready : prepare request content = .ok (config, expected)) :
    ∃ report, (run request content).1 = .ok report := by
  obtain ⟨report, after, executed, -⟩ := exists_exact_execute ready 0
  refine ⟨report, ?_⟩
  rw [run, ready]
  exact congrArg Prod.fst executed

theorem prepare_of_expectedDirectories (some_threads : request.threads ≠ 0) :
    prepare request content =
      match expectedDirectories request.threads request.depth request.fanout with
      | none => .error request.tooLarge
      | some expected => (loadConfig request content).map fun config => (config, expected) := by
  unfold prepare
  rw [if_neg some_threads]
  cases expectedDirectories request.threads request.depth request.fanout with
  | none => rfl
  | some expected => cases loadConfig request content <;> rfl

/-- Of the requests for some workers, just those for too many directories are refused as too large. -/
theorem run_eq_tooLarge_iff (some_threads : request.threads ≠ 0) :
    (run request content).1 = .error request.tooLarge ↔
      expectedDirectories request.threads request.depth request.fanout = none := by
  have prepared := @prepare_of_expectedDirectories request content some_threads
  cases counted : expectedDirectories request.threads request.depth request.fanout with
  | none =>
    rw [counted] at prepared
    simp [run, prepared]
  | some expected =>
    rw [counted] at prepared
    simp only [reduceCtorEq, iff_false]
    intro refused
    cases loaded : loadConfig request content with
    | error complaint =>
      rw [run, prepared, loaded] at refused
      cases refused
      exact causes_ne_nil_of_loadConfig loaded rfl
    | ok config =>
      rw [loaded] at prepared
      obtain ⟨report, finished⟩ := exists_report_of_prepare prepared
      rw [finished] at refused
      cases refused

/-- A tree is counted to the last directory as long as 64 bits hold the count, and not beyond. A
request for such trees is refused as too large just if 64 bits do not hold the count of all of them. -/
theorem directories_counted_iff_fit (depth fanout : Nat) :
    let size := ∑ l ∈ Finset.range (depth + 1), fanout ^ l
    (∀ count, directoriesPerWorker depth fanout = some count ↔ size < 2 ^ 64 ∧ count = size) ∧
      (directoriesPerWorker depth fanout = none ↔ 2 ^ 64 ≤ size) ∧
      ∀ (request : Request) (content : String → Except Host.Refusal (List UInt8)),
        request.depth = depth → request.fanout = fanout → request.threads ≠ 0 →
        ((run request content).1 = .error request.tooLarge ↔ 2 ^ 64 ≤ request.threads * size) := by
  intro size
  have each : directoriesPerWorker depth fanout = counted? size := directoriesPerWorker_eq depth fanout
  refine ⟨fun count => ?_, ?_, ?_⟩
  · rw [each]
    exact counted?_eq_some_iff
  · rw [each]
    exact counted?_eq_none_iff
  · rintro request content rfl rfl some_threads
    rw [run_eq_tooLarge_iff some_threads, expectedDirectories_eq _ _ some_threads]
    exact counted?_eq_none_iff

/-- A directory with `2 ^ 64 - 2` others in it can still be counted. One more in it is too many, and so
are two such trees. -/
theorem directories_counted_iff_fit_at_limit :
    let request : Request := { threads := 2, depth := 1, fanout := 2 ^ 64 - 2 }
    directoriesPerWorker 1 (2 ^ 64 - 2) = some (2 ^ 64 - 1) ∧
      directoriesPerWorker 1 (2 ^ 64 - 1) = none ∧
      request.threads ≠ 0 ∧ (run request fun _ => .ok []).1 = .error request.tooLarge := by
  intro request
  have some_threads : request.threads ≠ 0 := by decide
  have size (fanout : Nat) : ∑ l ∈ Finset.range (1 + 1), fanout ^ l = 1 + fanout := by
    rw [Finset.sum_range_succ, Finset.sum_range_one, Nat.pow_zero, Nat.pow_one]
  obtain ⟨fits, -, refused⟩ := directories_counted_iff_fit 1 (2 ^ 64 - 2)
  obtain ⟨-, exceeds, -⟩ := directories_counted_iff_fit 1 (2 ^ 64 - 1)
  rw [size] at fits refused exceeds
  refine ⟨(fits _).mpr ⟨by decide, by decide⟩, exceeds.mpr (by decide), some_threads, ?_⟩
  exact (refused request _ rfl rfl some_threads).mpr (by decide)

end CoupledFs.Workload
