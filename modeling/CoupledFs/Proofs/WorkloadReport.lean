import CoupledFs.Proofs.Crew
import CoupledFs.Proofs.WorkloadStages

/-! What a workload reports, in whatever order its workers take their turns. -/

namespace CoupledFs.Workload

namespace Tally

theorem foldl_merge_replicate (tally each : Tally) (flawless : each.errors = []) (count : Nat) :
    (List.replicate count each).foldl merge tally =
      ⟨tally.created + count * each.created, tally.reads + count * each.reads, tally.errors⟩ := by
  induction count generalizing tally with
  | zero => simp
  | succ count ih =>
    rw [List.replicate_succ, List.foldl_cons, ih, merge, flawless, List.foldl_nil]
    simp only [mk.injEq, and_true]
    constructor <;> ring

theorem foldl_merge_refused (times count : Nat) :
    (List.replicate count (({} : Tally).addError .readOnly)).foldl merge
      ⟨0, 0, [("read_only", times)]⟩ = ⟨0, 0, [("read_only", times + count)]⟩ := by
  induction count generalizing times with
  | zero => rfl
  | succ count ih =>
    have once : merge ⟨0, 0, [("read_only", times)]⟩ (({} : Tally).addError .readOnly) =
        ⟨0, 0, [("read_only", times + 1)]⟩ := rfl
    rw [List.replicate_succ, List.foldl_cons, once, ih, Nat.add_right_comm, Nat.add_assoc]

end Tally

def Request.share (request : Request) (readOnly : Bool) : Tally :=
  if readOnly then ({} : Tally).addError .readOnly
  else ⟨∑ l ∈ Finset.range (request.depth + 1), request.fanout ^ l,
    ∑ l ∈ Finset.range (request.depth + 1), (l + 2) * request.fanout ^ l, []⟩

namespace Site

variable (site : Site) (request : Request)

theorem total_eq (number : Nat) :
    site.total request number = request.share site.fs.store.readOnly := by
  unfold total Worker.total Request.share
  split
  · rfl
  · rw [Tally.having, Worker.length_directories, Worker.sum_directories, Nat.zero_add, Nat.zero_add]
    rfl

theorem length_makings (number : Nat) : (makings (site.errands request number)).length =
    (request.share site.fs.store.readOnly).created := by
  unfold errands Worker.errands Request.share
  split
  · rfl
  · rw [makings_visits, Worker.length_directories]
    rfl

/-- When all workers are done, everything that they count has been made. -/
theorem sum_built {turns : Fin request.threads → Nat}
    (finished : ∀ worker : Fin request.threads,
      (site.errands request worker).length ≤ turns worker) :
    ∑ worker : Fin request.threads, (site.built request worker (turns worker)).length =
      request.threads * (request.share site.fs.store.readOnly).created := by
  have each (worker : Fin request.threads) (_ : worker ∈ Finset.univ) :
      (site.built request worker (turns worker)).length =
        (request.share site.fs.store.readOnly).created := by
    rw [built, List.take_of_length_le (finished worker), length_makings]
  rw [Finset.sum_const_nat each, Finset.card_univ, Fintype.card_fin]

end Site

namespace Crew.Reached

variable {site : Site} {request : Request} {turns : Fin request.threads → Nat}
  {crew : Crew request.threads} (reached : Reached site request turns crew)

include reached

/-- At any time, the directories that are counted are the root and those that workers have made. -/
theorem count (opened : site.fs.isOpen = true) (later : Int) :
    (site.fs.countDirectories (.root site.root) { crew.graph with clock := later }).outcome =
      (.ok (1 + ∑ worker : Fin request.threads,
          (site.built request worker (turns worker)).length),
        { crew.graph with clock := later }) := by
  let made (worker : Fin request.threads) := site.built request worker (turns worker)
  have distinct : ([] :: (List.finRange request.threads).flatMap made).Nodup := by
    refine List.nodup_cons.mpr ⟨fun root => ?_, List.nodup_flatMap.mpr ⟨fun worker _ => ?_, ?_⟩⟩
    · obtain ⟨worker, -, root⟩ := List.mem_flatMap.mp root
      cases Site.head?_of_built root
    · exact site.nodup_built request worker (turns worker)
    · refine (List.nodup_finRange _).imp fun differs => List.disjoint_left.mpr ?_
      intro names first second
      exact differs (Fin.ext (Site.number_eq_of_built first second))
  have exact (names : List String) : names ∈ [] :: (List.finRange request.threads).flatMap made ↔
      site.Place request turns names := by
    simp [Site.Place, made]
  rw [(reached.tree.at_time later).count opened distinct exact (.inl rfl), List.length_cons,
    List.length_flatMap, Nat.add_comm, Fin.sum_univ_def]

theorem done_iff (worker : Fin request.threads) (tally : Tally) :
    crew.tasks worker = .done tally ↔
      (site.errands request worker).length ≤ turns worker ∧
        tally = request.share site.fs.store.readOnly := by
  have follows := reached.follows worker
  rw [site.total_eq] at follows
  constructor
  · intro done
    rw [done] at follows
    generalize left : (site.errands request worker).drop (turns worker) = errands at follows
    cases follows
    exact ⟨List.drop_eq_nil_iff.mp left, rfl⟩
  · rintro ⟨enough, rfl⟩
    rw [List.drop_eq_nil_of_le enough] at follows
    generalize crew.tasks worker = task at follows
    cases follows
    rfl

end Crew.Reached

/-- A report that is right to the last directory. -/
structure Report.Exact (request : Request) (readOnly : Bool) (report : Report) : Prop where
  threads : report.threads = request.threads
  depth : report.depth = request.depth
  fanout : report.fanout = request.fanout
  expected : report.expected =
    request.threads * ∑ l ∈ Finset.range (request.depth + 1), request.fanout ^ l
  writable : readOnly = false →
    report.created = report.expected ∧ report.found = report.expected ∧
    report.reads =
      request.threads * ∑ l ∈ Finset.range (request.depth + 1), (l + 2) * request.fanout ^ l ∧
    report.errors = [] ∧ report.status = "passed"
  refused : readOnly = true →
    report.created = 0 ∧ report.found = 0 ∧ report.reads = 0 ∧
    report.errors = [("read_only", request.threads)] ∧ report.status = "failed"

theorem Report.exact_of_share {request : Request} {expected : Nat}
    (some_threads : request.threads ≠ 0)
    (counted : expectedDirectories request.threads request.depth request.fanout = some expected)
    (readOnly : Bool) {total : Tally}
    (summed :
      (List.replicate request.threads (request.share readOnly)).foldl Tally.merge {} = total) :
    Report.Exact request readOnly ⟨request.threads, request.depth, request.fanout, total.created,
      expected, 1 + request.threads * (request.share readOnly).created - 1, total.reads,
      total.errors⟩ := by
  obtain rfl := eq_sum_of_expectedDirectories counted
  rw [Nat.add_sub_cancel_left]
  cases readOnly with
  | false =>
    rw [Tally.foldl_merge_replicate _ _ rfl] at summed
    subst summed
    refine ⟨rfl, rfl, rfl, rfl, fun _ => ?_, nofun⟩
    simp [Request.share, status, passed]
  | true =>
    obtain ⟨others, threads⟩ := Nat.exists_eq_succ_of_ne_zero some_threads
    have first : Tally.merge {} (({} : Tally).addError .readOnly) =
        ⟨0, 0, [("read_only", 1)]⟩ := rfl
    have share : request.share true = ({} : Tally).addError .readOnly := rfl
    rw [share, threads, List.replicate_succ, List.foldl_cons, first, Tally.foldl_merge_refused,
      Nat.add_comm, ← Nat.succ_eq_add_one, ← threads] at summed
    subst summed
    refine ⟨rfl, rfl, rfl, rfl, nofun, fun _ => ?_⟩
    simp [share, Tally.addError, status, passed]

section Concluding

variable {request : Request} {config : Config} {site : Site} {turns : Fin request.threads → Nat}
  {crew : Crew request.threads} {provider : Provider}

/-- Once all workers are done, the report is right, in whatever order they are asked what they
counted. -/
theorem exists_exact_conclude (some_threads : request.threads ≠ 0)
    (counted : expectedDirectories request.threads request.depth request.fanout = some expected)
    (ready : site.Ready config provider) (reached : Crew.Reached site request turns crew)
    {tallies : Fin request.threads → Tally}
    (finished : ∀ worker, crew.tasks worker = .done (tallies worker))
    {order : List (Fin request.threads)} (once : order.Perm (List.finRange request.threads))
    (later : Int) (log : Array Log.Record) :
    ∃ report after, (conclude request expected site (order.map tallies)).Yields
      ⟨{ provider with graph := { crew.graph with clock := later } }, log⟩ report after ∧
      Report.Exact request config.readOnly report := by
  have enough (worker : Fin request.threads) := (reached.done_iff worker _).mp (finished worker)
  have same : order.map tallies =
      List.replicate request.threads (request.share config.readOnly) := by
    rw [← ready.readOnly]
    refine List.eq_replicate_iff.mpr ⟨?_, fun tally member => ?_⟩
    · rw [List.length_map, once.length_eq, List.length_finRange]
    · obtain ⟨worker, -, rfl⟩ := List.mem_map.mp member
      exact (enough worker).2
  have found := reached.count ready.opened later
  rw [site.sum_built request fun worker => (enough worker).1, ready.readOnly] at found
  have there : ({ provider with graph := { crew.graph with clock := later } } : Provider).system?
      site.id = some site.fs := ready.there
  obtain ⟨after, concluded⟩ :=
    exists_conclude request expected there found log (order.map tallies)
  rw [same] at concluded
  exact ⟨_, after, same ▸ concluded, Report.exact_of_share some_threads counted _ rfl⟩

end Concluding

/-- The report of a workload is right for every order in which its workers take their turns, at
whatever times, and every order in which they are asked what they counted. Workers that get turns
enough come to an end. -/
theorem report_of_interleaving {request : Request}
    {content : String → Except Host.Refusal (List UInt8)} {config : Config} {expected : Nat}
    (ready : prepare request content = .ok (config, expected)) (now : Int) :
    ∃ site progress,
      (setUp request config).Yields ⟨({} : Provider).atTime now, #[]⟩ site progress ∧
      let crew := Crew.opening site request progress.provider.graph
      (∃ calls, ∀ steps : List (Int × Fin request.threads),
        (∀ worker, calls ≤ Crew.turns steps worker) →
        ∃ tallies : Fin request.threads → Tally,
          ∀ worker, (crew.run site.fs steps).tasks worker = .done (tallies worker)) ∧
      ∀ (steps : List (Int × Fin request.threads)) (tallies : Fin request.threads → Tally),
        (∀ worker, (crew.run site.fs steps).tasks worker = .done (tallies worker)) →
        ∀ order : List (Fin request.threads), order.Perm (List.finRange request.threads) →
        ∀ (later : Int) (log : Array Log.Record), ∃ report after,
          (conclude request expected site (order.map tallies)).Yields
            ⟨{ progress.provider with
              graph := { (crew.run site.fs steps).graph with clock := later } }, log⟩ report after ∧
          Report.Exact request config.readOnly report := by
  obtain ⟨some_threads, counted, loaded⟩ := prepare_eq_ok ready
  obtain ⟨site, progress, begun, ready⟩ := exists_setUp request (validate_of_loadConfig loaded)
    ⟨({} : Provider).atTime now, #[]⟩ rfl
  have reached (steps : List (Int × Fin request.threads)) : Crew.Reached site request
      (Crew.turns steps)
      ((Crew.opening site request progress.provider.graph).run site.fs steps) :=
    Crew.reached_run ready.tree ready.opened steps
  refine ⟨site, progress, begun, ⟨∑ worker : Fin request.threads,
    (site.errands request worker).length, ?ending⟩, ?right⟩
  case ending =>
    intro steps enough
    refine ⟨fun _ => request.share site.fs.store.readOnly, fun worker => ?_⟩
    refine ((reached steps).done_iff worker _).mpr ⟨Nat.le_trans ?_ (enough worker), rfl⟩
    exact Finset.single_le_sum (f := fun other : Fin request.threads =>
      (site.errands request other).length) (fun _ _ => Nat.zero_le _) (Finset.mem_univ worker)
  case right =>
    intro steps tallies finished order once later log
    exact exists_exact_conclude some_threads counted ready (reached steps) finished once later log

/-- Two workers that take turns make six directories, whichever of them is asked first. -/
theorem report_of_interleaving_of_two_workers :
    let request : Request := { threads := 2, depth := 1, fanout := 2 }
    prepare request (fun _ => .ok []) = .ok (.unix, 6) ∧ ∃ site progress,
      (setUp request .unix).Yields ⟨({} : Provider).atTime 0, #[]⟩ site progress ∧
      ∃ (steps : List (Int × Fin 2)) (tallies : Fin 2 → Tally),
        let crew := (Crew.opening site request progress.provider.graph).run site.fs steps
        (∀ worker, crew.tasks worker = .done (tallies worker)) ∧ ∃ report after,
          (conclude request 6 site [tallies 1, tallies 0]).Yields
            ⟨{ progress.provider with graph := { crew.graph with clock := 1 } }, #[]⟩ report after ∧
          report = ⟨2, 1, 2, 6, 6, 6, 16, []⟩ ∧ report.status = "passed" := by
  intro request
  have ready : prepare request (fun _ => .ok []) = .ok (.unix, 6) := rfl
  obtain ⟨site, progress, begun, ⟨calls, ending⟩, right⟩ := report_of_interleaving ready 0
  have enough (count : Nat) (worker : Fin 2) :
      count ≤ Crew.turns (List.replicate count [(0, 0), (0, 1)]).flatten worker := by
    have once : ([(0, 0), (0, 1)].map (Prod.snd : Int × Fin 2 → Fin 2)).count worker = 1 := by
      revert worker
      decide
    unfold Crew.turns
    induction count with
    | zero => exact Nat.zero_le _
    | succ count ih =>
      rw [List.replicate_succ, List.flatten_cons, List.map_append, List.count_append, once]
      omega
  obtain ⟨tallies, finished⟩ := ending _ (enough calls)
  have swapped : [1, 0].Perm (List.finRange 2) := by decide
  obtain ⟨report, after, concluded, exact⟩ := right _ tallies finished [1, 0] swapped 1 #[]
  obtain ⟨created, found, reads, errors, passed⟩ := exact.writable rfl
  have expected : report.expected = 6 := exact.expected
  refine ⟨ready, site, progress, begun, _, tallies, finished, report, after, concluded, ?_, passed⟩
  cases report
  rw [Report.mk.injEq]
  exact ⟨exact.threads, exact.depth, exact.fanout, created.trans expected, expected,
    found.trans expected, reads, errors⟩

/-! ### One worker after the other -/

namespace Crew

variable {threads : Nat}

theorem run_append (fs : FileSystem) (crew : Crew threads) (steps more : List (Int × Fin threads)) :
    crew.run fs (steps ++ more) = (crew.run fs steps).run fs more :=
  List.foldl_append ..

private theorem exists_run_of_turn {fs : FileSystem} {worker : Fin threads} {crew : Crew threads}
    {graph : Graph} {task : Task} {reply : TaskReply}
    (turned : crew.turn fs (crew.graph.clock, worker) =
      ⟨graph, Function.update crew.tasks worker task⟩)
    (rest : ∃ steps, (⟨graph, Function.update crew.tasks worker task⟩ : Crew threads).run fs steps =
      ⟨reply.graph, Function.update (Function.update crew.tasks worker task) worker
        (.done reply.tally)⟩) :
    ∃ steps, crew.run fs steps =
      ⟨reply.graph, Function.update crew.tasks worker (.done reply.tally)⟩ := by
  obtain ⟨steps, later⟩ := rest
  refine ⟨(crew.graph.clock, worker) :: steps, ?_⟩
  rw [run, List.foldl_cons, turned]
  exact later.trans (by rw [Function.update_idem])

/-- A worker that is let alone does in turns what it does in one go. -/
theorem exists_run_of_task (fs : FileSystem) (worker : Fin threads) (task : Task)
    (crew : Crew threads) (unstarted : crew.tasks worker = task) (log : Array Log.Record) :
    ∃ steps, crew.run fs steps = ⟨(task.run fs crew.graph log).graph,
      Function.update crew.tasks worker (.done (task.run fs crew.graph log).tally)⟩ := by
  induction task generalizing crew log with
  | done tally =>
    refine ⟨[], ?_⟩
    rw [Task.run, ← unstarted, Function.update_eq_self]
    rfl
  | create path next ih =>
    have turned : crew.turn fs (crew.graph.clock, worker) =
        ⟨(fs.createDirectory path crew.graph).state,
          Function.update crew.tasks worker (next (fs.createDirectory path crew.graph).answer)⟩ := by
      simp only [turn, unstarted, Task.advance]
    exact exists_run_of_turn turned (ih _ _ (Function.update_self ..) _)
  | read path next ih =>
    have turned : crew.turn fs (crew.graph.clock, worker) =
        ⟨(fs.readBasic path crew.graph).state,
          Function.update crew.tasks worker (next (fs.readBasic path crew.graph).answer)⟩ := by
      simp only [turn, unstarted, Task.advance]
    exact exists_run_of_turn turned (ih _ _ (Function.update_self ..) _)

end Crew

section Alone

variable {request : Request} {config : Config} {site : Site} {provider : Provider}

theorem exists_runWorker (ready : site.Ready config provider) {worker : Fin request.threads}
    {earlier : List (Int × Fin request.threads)} {crew : Crew request.threads}
    (ran : (Crew.opening site request provider.graph).run site.fs earlier = crew)
    (unstarted : crew.tasks worker = (site.worker request.fanout worker).task request.depth)
    (log : Array Log.Record) :
    ∃ steps graph log', crew.run site.fs steps =
        ⟨graph, Function.update crew.tasks worker (.done (request.share config.readOnly))⟩ ∧
      (runWorker site.fs request.depth (site.worker request.fanout worker)).Yields
        ⟨{ provider with graph := crew.graph }, log⟩ (request.share config.readOnly)
        ⟨{ provider with graph }, log'⟩ := by
  obtain ⟨steps, alone⟩ := crew.exists_run_of_task site.fs worker _ unstarted log
  obtain ⟨log', worked⟩ : ∃ log', (runWorker site.fs request.depth
      (site.worker request.fanout worker)).Yields ⟨{ provider with graph := crew.graph }, log⟩ _
      ⟨{ provider with graph := _ }, log'⟩ := ⟨_, rfl⟩
  generalize ((site.worker request.fanout worker).task request.depth).run site.fs crew.graph log =
    reply at alone worked
  have reached : Crew.Reached site request (Crew.turns (earlier ++ steps))
      ((Crew.opening site request provider.graph).run site.fs (earlier ++ steps)) :=
    Crew.reached_run ready.tree ready.opened (earlier ++ steps)
  rw [Crew.run_append, ran, alone] at reached
  have counted : reply.tally = request.share config.readOnly := by
    rw [← ready.readOnly]
    exact ((reached.done_iff worker _).mp (Function.update_self ..)).2
  rw [counted] at alone worked
  exact ⟨steps, reply.graph, log', alone, worked⟩

/-- Workers that run one after the other take turns like any others, and count their shares. -/
theorem exists_mapM_runWorker (ready : site.Ready config provider)
    {workers : List (Fin request.threads)} (distinct : workers.Nodup)
    (earlier : List (Int × Fin request.threads)) {crew : Crew request.threads}
    (ran : (Crew.opening site request provider.graph).run site.fs earlier = crew)
    (unstarted : ∀ worker ∈ workers,
      crew.tasks worker = (site.worker request.fanout worker).task request.depth)
    (log : Array Log.Record) :
    ∃ steps log', ((workers.map Fin.val).mapM fun number =>
        runWorker site.fs request.depth (site.worker request.fanout number)).Yields
          ⟨{ provider with graph := crew.graph }, log⟩
          (workers.map fun _ => request.share config.readOnly)
          ⟨{ provider with graph := (crew.run site.fs steps).graph }, log'⟩ ∧
      (∀ worker ∈ workers,
        (crew.run site.fs steps).tasks worker = .done (request.share config.readOnly)) ∧
      ∀ worker ∉ workers, (crew.run site.fs steps).tasks worker = crew.tasks worker := by
  -- `earlier` holds the turns of the workers that are done: what a worker counts is known from how
  -- far all of them have come since the opening.
  induction workers generalizing earlier crew log with
  | nil => exact ⟨[], log, Stage.yields_pure _ _, by simp, fun _ _ => rfl⟩
  | cons worker workers ih =>
    obtain ⟨absent, distinct⟩ := List.nodup_cons.mp distinct
    obtain ⟨first, graph, log₁, alone, begun⟩ :=
      exists_runWorker ready ran (unstarted worker List.mem_cons_self) log
    have unstarted' : ∀ other ∈ workers, Function.update crew.tasks worker
        (.done (request.share config.readOnly)) other =
          (site.worker request.fanout other).task request.depth := by
      intro other member
      have differs : other ≠ worker := by
        rintro rfl
        exact absent member
      rw [Function.update_of_ne differs]
      exact unstarted other (List.mem_cons_of_mem _ member)
    have ran' := (Crew.run_append site.fs _ earlier first).trans (by rw [ran, alone])
    obtain ⟨more, log₂, rest, done, others⟩ := ih distinct (earlier ++ first) ran' unstarted' log₁
    refine ⟨first ++ more, log₂, ?yields, ?finished, ?aside⟩ <;> rw [Crew.run_append, alone]
    case yields =>
      rw [List.map_cons, List.mapM_cons, List.map_cons]
      exact begun.bind (rest.bind (Stage.yields_pure _ _))
    case finished =>
      intro other member
      rcases List.mem_cons.mp member with rfl | member
      · exact (others other absent).trans (Function.update_self ..)
      · exact done other member
    case aside =>
      intro other missing
      obtain ⟨differs, missing⟩ := not_or.mp (mt List.mem_cons.mpr missing)
      exact (others other missing).trans (Function.update_of_ne differs ..)

/-- A workload that is in order comes to a report, and the report is right. -/
theorem exists_exact_execute {content : String → Except Host.Refusal (List UInt8)} {expected : Nat}
    (ready : prepare request content = .ok (config, expected)) (now : Int) :
    ∃ report after, (execute request config expected).Yields
      ⟨({} : Provider).atTime now, #[]⟩ report after ∧
      Report.Exact request config.readOnly report := by
  obtain ⟨some_threads, counted, loaded⟩ := prepare_eq_ok ready
  obtain ⟨site, ⟨provider, log⟩, begun, ready⟩ := exists_setUp request
    (validate_of_loadConfig loaded) ⟨({} : Provider).atTime now, #[]⟩ rfl
  obtain ⟨steps, log', worked, finished, -⟩ := exists_mapM_runWorker ready
    (List.nodup_finRange request.threads) [] rfl (fun _ _ => rfl) log
  have reached : Crew.Reached site request (Crew.turns steps) _ :=
    Crew.reached_run ready.tree ready.opened steps
  obtain ⟨report, after, concluded, exact⟩ := exists_exact_conclude some_threads counted ready
    reached (fun worker => finished worker (List.mem_finRange worker)) (.refl _) _ log'
  refine ⟨report, after, begun.bind (Stage.Yields.bind ?_ concluded), exact⟩
  rw [← List.map_coe_finRange_eq_range]
  exact worked

end Alone

end CoupledFs.Workload
