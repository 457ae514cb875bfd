import CoupledFs.Proofs.Request
import CoupledFs.Proofs.Traffic
import Mathlib.Algebra.Order.BigOperators.Group.Finset
import Mathlib.Data.Fintype.EquivFin
import Mathlib.Order.WellFounded

/-! Calls never wait for one another in a circle. A call holds locks on nodes above the one that it
wants, so whoever wants the lowest node does not wait for anybody who waits. -/

namespace CoupledFs

namespace LockTable

theorem taken_of_hindered_read {table : LockTable}
    (hindered : table.permits (.acquire node .read) = false) :
    (∃ mode, (node, mode) ∈ table.holds) ∨ node ∈ table.awaited := by
  by_contra untaken
  obtain ⟨unheld, unasked⟩ := not_or.mp untaken
  have free := permits_read_iff.mpr ⟨fun held => unheld ⟨_, held⟩, unasked⟩
  rw [hindered] at free
  cases free

theorem held_of_hindered_write {table : LockTable}
    (hindered : table.permits (.acquire node .write) = false) :
    ∃ mode, (node, mode) ∈ table.holds := by
  by_contra unheld
  have free := permits_write_iff.mpr ⟨fun held => unheld ⟨_, held⟩, fun held => unheld ⟨_, held⟩⟩
  rw [hindered] at free
  cases free

end LockTable

namespace Stage

def locks (mode : LockMode) : Stage α → List (NodeId × LockMode)
  | entering held _ _ _ | arriving held _ | waiting held _ => readLocks held
  | looking held node _ _ => readLocks (node :: held)
  | working held target => (target, mode) :: readLocks held
  | leaving locks _ => locks

def awaited : Stage α → List NodeId
  | waiting _ target => [target]
  | entering .. | looking .. | arriving .. | working .. | leaving .. => []

def goal? : Stage α → Option NodeId
  | entering _ node _ _ => some node
  | arriving _ target | waiting _ target => some target
  | looking .. | working .. | leaving .. => none

theorem unfinished_of_locks {stage : Stage α} (held : entry ∈ stage.locks mode) :
    stage.isFinished = false := by
  cases stage with
  | leaving locks answer =>
    cases locks with
    | nil => cases held
    | cons => rfl
  | entering _ _ _ _ | looking _ _ _ _ | arriving _ _ | waiting _ _ | working _ _ => rfl

theorem goal?_of_awaited {stage : Stage α} (waits : node ∈ stage.awaited) :
    stage.goal? = some node ∧ stage.isFinished = false := by
  cases stage with
  | waiting held target =>
    cases List.mem_singleton.mp waits
    exact ⟨rfl, rfl⟩
  | entering _ _ _ _ | looking _ _ _ _ | arriving _ _ | working _ _ | leaving _ _ => cases waits

@[simp]
theorem locks_toward (mode : LockMode) (held : List NodeId) (node : NodeId) (names : List String) :
    (toward held node names : Stage α).locks mode = readLocks held := by
  cases names <;> rfl

@[simp]
theorem awaited_toward (held : List NodeId) (node : NodeId) (names : List String) :
    (toward held node names : Stage α).awaited = [] := by
  cases names <;> rfl

end Stage

namespace Traversal

variable {α : Type} {graph : Graph}

/-- A step changes the table's count of each lock as it changes that of the call. -/
theorem Moves.count_holds {t : Traversal α} (moved : t.Moves graph stage lock next after)
    (table : LockTable) (entry : NodeId × LockMode)
    (listed : (stage.locks t.mode).count entry ≤ table.holds.count entry) :
    (table.after lock).holds.count entry + (stage.locks t.mode).count entry =
      table.holds.count entry + (next.locks t.mode).count entry := by
  cases moved with
  | enter =>
    simp only [LockTable.after, Stage.locks, readLocks, List.map_cons, List.count_cons]
    omega
  | pass =>
    rw [Stage.locks_toward]
    rfl
  | ask | stop | work => rfl
  | share held target reads =>
    simp only [LockTable.after, Stage.locks, reads, List.count_cons]
    omega
  | claim held target =>
    cases mode : t.mode <;>
    · simp only [LockTable.after, Stage.locks, List.count_cons]
      omega
  | release node mode locks answer =>
    simp only [LockTable.after, Stage.locks, List.count_cons, List.count_erase] at listed ⊢
    omega

theorem Moves.count_awaited {t : Traversal α} (moved : t.Moves graph stage lock next after)
    (valid : t.OnRoute graph stage) (table : LockTable) (node : NodeId)
    (listed : stage.awaited.count node ≤ table.awaited.count node) :
    (table.after lock).awaited.count node + stage.awaited.count node =
      table.awaited.count node + next.awaited.count node := by
  cases moved with
  | pass =>
    rw [Stage.awaited_toward]
    rfl
  | enter | stop | share | work | release => rfl
  | ask held target writes =>
    simp only [LockTable.after, Stage.awaited, List.count_cons, List.count_nil]
    omega
  | claim held target =>
    simp only [valid.1, LockTable.after, Stage.awaited, List.count_cons, List.count_nil,
      List.count_erase] at listed ⊢
    omega

theorem Moves.treelike {t : Traversal α}
    (grafts : ∀ (target : NodeId) (graph : Graph), graph.Grafts target (t.work target graph).state)
    (moved : t.Moves graph stage lock next after) (treelike : graph.Treelike) :
    after.Treelike := by
  rcases moved.graph_cases with rfl | ⟨held, target, -, rfl⟩
  · exact treelike
  · exact treelike.grafts (grafts target graph)

/-- A call that has to wait is about to lock a node that somebody holds or waits to write to. -/
theorem goal?_of_hindered {t : Traversal α} {table : LockTable} (valid : t.OnRoute graph stage)
    (turned : t.turn graph stage = .step lock next after log)
    (hindered : table.permits lock = false) :
    ∃ goal, stage.goal? = some goal ∧
      ((∃ mode, (goal, mode) ∈ table.holds) ∨ goal ∈ table.awaited ∧ stage.awaited = []) := by
  cases moves_of_turn turned with
  | enter held node name names =>
    exact ⟨node, rfl, LockTable.taken_of_hindered_read hindered |>.imp_right (⟨·, rfl⟩)⟩
  | share held target reads =>
    exact ⟨target, rfl, LockTable.taken_of_hindered_read hindered |>.imp_right (⟨·, rfl⟩)⟩
  | claim held target =>
    rw [valid.1] at hindered
    exact ⟨target, rfl, .inl (LockTable.held_of_hindered_write hindered)⟩
  | pass | stop | ask | work | release => cases hindered

/-- A call that is about to lock a node holds locks on nodes above it only. -/
theorem OnRoute.above_goal {t : Traversal α} {mode : LockMode} (valid : t.OnRoute graph stage)
    (wanted : stage.goal? = some goal) (held : (node, mode) ∈ stage.locks t.mode) :
    graph.Above node goal := by
  have passed {nodes : List NodeId} (member : (node, mode) ∈ readLocks nodes) :
      node ∈ nodes.reverse := by
    obtain ⟨passed, inside, same⟩ := List.mem_map.mp member
    obtain ⟨rfl, -⟩ := Prod.mk.inj same
    exact List.mem_reverse.mpr inside
  cases stage with
  | entering nodes here name names =>
    cases wanted
    obtain ⟨front, -, route⟩ := valid
    exact route.above_target node (passed held)
  | arriving nodes target =>
    cases wanted
    exact Route.above_target valid node (passed held)
  | waiting nodes target =>
    cases wanted
    exact valid.2.above_target node (passed held)
  | looking _ _ _ _ | working _ _ | leaving _ _ => cases wanted

end Traversal

def Plan.mode : Plan α → LockMode
  | .ok t => t.mode
  | .error _ => .read

namespace Traffic

variable {ι α : Type} {calls : ι → Plan α} {s s' : Traffic ι α}

/-- Nothing that a call does to the graph is more than hanging new nodes under its target. -/
def Grafts (calls : ι → Plan α) : Prop :=
  ∀ call t, calls call = .ok t → ∀ (target : NodeId) (graph : Graph),
    graph.Grafts target (t.work target graph).state

theorem Grafts.grows {calls : ι → Plan α} (grafts : Grafts calls) : Grows calls :=
  fun call t planned target graph => (grafts call t planned target graph).kept

/-- The table lists the locks that calls hold and the nodes that they wait for, and no others. -/
structure Coherent [Fintype ι] (calls : ι → Plan α) (s : Traffic ι α) : Prop where
  holds : ∀ entry, s.locks.holds.count entry =
    ∑ call, ((s.stage call).locks (calls call).mode).count entry
  awaited : ∀ node, s.locks.awaited.count node = ∑ call, (s.stage call).awaited.count node

theorem coherent_opening [Fintype ι] (start : Graph) (calls : ι → Plan α) :
    (opening start calls).Coherent calls := by
  have idle (plan : Plan α) : plan.opening.locks plan.mode = [] ∧ plan.opening.awaited = [] := by
    cases plan with
    | error error => exact ⟨rfl, rfl⟩
    | ok t => exact ⟨Stage.locks_toward .., Stage.awaited_toward ..⟩
  constructor <;> intro entry <;> simp [opening, idle]

theorem Coherent.exists_holder [Fintype ι] (coherent : Coherent calls s)
    (held : entry ∈ s.locks.holds) : ∃ call, entry ∈ (s.stage call).locks (calls call).mode := by
  by_contra unheld
  have none_holds : ∀ call, ((s.stage call).locks (calls call).mode).count entry = 0 :=
    fun call => List.count_eq_zero.mpr fun member => unheld ⟨call, member⟩
  have counted := coherent.holds entry
  simp only [none_holds, Finset.sum_const_zero] at counted
  exact List.count_eq_zero.mp counted held

theorem Coherent.exists_writer [Fintype ι] (coherent : Coherent calls s)
    (awaited : node ∈ s.locks.awaited) : ∃ call, node ∈ (s.stage call).awaited := by
  by_contra unasked
  have none_waits : ∀ call, (s.stage call).awaited.count node = 0 :=
    fun call => List.count_eq_zero.mpr fun member => unasked ⟨call, member⟩
  have counted := coherent.awaited node
  simp only [none_waits, Finset.sum_const_zero] at counted
  exact List.count_eq_zero.mp counted awaited

/-- One call wants a node below the one that another wants. -/
def Deeper (s : Traffic ι α) (deep high : ι) : Prop :=
  ∃ upper lower, (s.stage high).goal? = some upper ∧ (s.stage deep).goal? = some lower ∧
    s.graph.Above upper lower

/-- There is a lowest among the nodes that finitely many calls want. -/
theorem wellFounded_deeper [Finite ι] (s : Traffic ι α) (treelike : s.graph.Treelike) :
    WellFounded s.Deeper := by
  have transitive : IsTrans ι s.Deeper := by
    constructor
    rintro first second third ⟨middle, lower, wanted, wanted₁, below⟩ ⟨upper, _, wanted₃, same, above⟩
    cases same.symm.trans wanted
    exact ⟨upper, lower, wanted₃, wanted₁, above.trans below⟩
  have irreflexive : Std.Irrefl s.Deeper := by
    constructor
    rintro call ⟨upper, lower, wanted, same, above⟩
    cases wanted.symm.trans same
    exact treelike.loopless upper above
  exact Finite.wellFounded_of_trans_of_irrefl s.Deeper

variable [DecidableEq ι]

theorem total_of_change [Fintype ι] (call : ι) {before after : ι → Nat}
    (listed : total = ∑ call, before call)
    (same : ∀ other ≠ call, after other = before other)
    (changed : total' + before call = total + after call) : total' = ∑ call, after call := by
  have rest : ∑ other ∈ Finset.univ.erase call, after other =
      ∑ other ∈ Finset.univ.erase call, before other :=
    Finset.sum_congr rfl fun other member => same other (Finset.ne_of_mem_erase member)
  rw [← Finset.add_sum_erase Finset.univ before (Finset.mem_univ call)] at listed
  rw [← Finset.add_sum_erase Finset.univ after (Finset.mem_univ call), rest]
  omega

theorem Coherent.move [Fintype ι] (coherent : Coherent calls s) (valid : OnRoute calls s)
    (moved : Move calls call s s') : Coherent calls s' := by
  obtain ⟨t, lock, planned, step, -, table, others⟩ := moved.exists_step
  have mode : (calls call).mode = t.mode := by rw [planned, Plan.mode]
  constructor
  · intro entry
    have listed := Finset.single_le_sum
      (f := fun call => ((s.stage call).locks (calls call).mode).count entry)
      (fun _ _ => Nat.zero_le _) (Finset.mem_univ call)
    rw [← coherent.holds entry, mode] at listed
    apply total_of_change call (coherent.holds entry)
    · intro other differs
      rw [others other differs]
    · rw [table, mode]
      exact step.count_holds s.locks entry listed
  · intro node
    have listed := Finset.single_le_sum (f := fun call => (s.stage call).awaited.count node)
      (fun _ _ => Nat.zero_le _) (Finset.mem_univ call)
    rw [← coherent.awaited node] at listed
    apply total_of_change call (coherent.awaited node)
    · intro other differs
      rw [others other differs]
    · rw [table]
      exact step.count_awaited (valid call t planned) s.locks node listed

theorem Run.coherent [Fintype ι] (grows : Grows calls)
    (run : Run calls (opening start calls) order s) : Coherent calls s := by
  induction run with
  | stay => exact coherent_opening start calls
  | tick _ _ ih => exact ⟨ih.holds, ih.awaited⟩
  | move run moved ih => exact ih.move (run.onRoute grows) moved

theorem Run.treelike (grafts : Grafts calls) (treelike : start.Treelike)
    (run : Run calls (opening start calls) order s) : s.graph.Treelike := by
  induction run with
  | stay => exact treelike
  | tick _ _ ih => exact ⟨ih.closed, ih.loopless⟩
  | move _ moved ih =>
    obtain ⟨t, lock, planned, step, -⟩ := moved.exists_step
    exact step.treelike (grafts _ t planned) ih

section Jam

variable {s : Traffic ι α} (valid : OnRoute calls s)
  (admitted : ∀ call, (s.stage call).isFinished = false → ∃ t, calls call = .ok t)
  (jammed : ∀ call, (s.stage call).isFinished = false → ∀ s', ¬ Move calls call s s')

include valid admitted jammed

theorem goal_of_jam (unfinished : (s.stage call).isFinished = false) :
    ∃ goal, (s.stage call).goal? = some goal ∧
      ((∃ mode, (goal, mode) ∈ s.locks.holds) ∨
        goal ∈ s.locks.awaited ∧ (s.stage call).awaited = []) := by
  obtain ⟨t, planned⟩ := admitted call unfinished
  rcases exists_move_or_hindered planned unfinished with ⟨s', moved⟩ | ⟨_, _, _, _, turned, hindered⟩
  · exact absurd moved (jammed call unfinished s')
  · exact Traversal.goal?_of_hindered (valid call t planned) turned hindered

/-- If nobody can go on, then everybody wants a node that somebody has locked. -/
theorem held_of_jam [Fintype ι] (coherent : Coherent calls s)
    (unfinished : (s.stage call).isFinished = false) :
    ∃ goal mode, (s.stage call).goal? = some goal ∧ (goal, mode) ∈ s.locks.holds := by
  obtain ⟨goal, wanted, ⟨mode, held⟩ | ⟨awaited, -⟩⟩ := goal_of_jam valid admitted jammed unfinished
  · exact ⟨goal, mode, wanted, held⟩
  · -- A writer that waits makes readers wait, and is itself made to wait by a holder only.
    obtain ⟨writer, waits⟩ := coherent.exists_writer awaited
    obtain ⟨same, unfinished'⟩ := Stage.goal?_of_awaited waits
    obtain ⟨goal', wanted', ⟨mode, held⟩ | ⟨-, idle⟩⟩ :=
      goal_of_jam valid admitted jammed unfinished'
    · cases same.symm.trans wanted'
      exact ⟨goal, mode, wanted, held⟩
    · rw [idle] at waits
      cases waits

/-- If nobody can go on, then below the node that one call wants there is one that another wants. -/
theorem lower_of_jam [Fintype ι] (coherent : Coherent calls s)
    (unfinished : (s.stage call).isFinished = false) :
    ∃ goal other lower, (s.stage call).goal? = some goal ∧
      (s.stage other).isFinished = false ∧ (s.stage other).goal? = some lower ∧
      s.graph.Above goal lower := by
  obtain ⟨goal, mode, wanted, held⟩ := held_of_jam valid admitted jammed coherent unfinished
  obtain ⟨holder, holds⟩ := coherent.exists_holder held
  have unfinished' := Stage.unfinished_of_locks holds
  obtain ⟨t, planned⟩ := admitted holder unfinished'
  obtain ⟨lower, wanted', -⟩ := goal_of_jam valid admitted jammed unfinished'
  rw [planned] at holds
  exact ⟨goal, holder, lower, wanted, unfinished', wanted',
    (valid holder t planned).above_goal wanted' holds⟩

end Jam

/-- However calls that only hang new nodes under their targets have gone on so far, if some are not
finished then one of those can go on. -/
theorem deadlock_free [Finite ι] (grafts : Grafts calls) (treelike : start.Treelike)
    (run : Run calls (opening start calls) order s)
    (unfinished : ∃ call, (s.stage call).isFinished = false) :
    ∃ call s', (s.stage call).isFinished = false ∧ Move calls call s s' := by
  cases nonempty_fintype ι
  by_contra stuck
  have jammed : ∀ call, (s.stage call).isFinished = false → ∀ s', ¬ Move calls call s s' :=
    fun call unfinished s' moved => stuck ⟨call, s', unfinished, moved⟩
  have admitted : ∀ call, (s.stage call).isFinished = false → ∃ t, calls call = .ok t := by
    intro call unfinished
    cases planned : calls call with
    | ok t => exact ⟨t, rfl⟩
    | error error =>
      rw [run.refused planned] at unfinished
      cases unfinished
  have valid := run.onRoute grafts.grows
  have coherent := run.coherent grafts.grows
  have descends := s.wellFounded_deeper (run.treelike grafts treelike)
  obtain ⟨call, unfinished⟩ := unfinished
  -- By induction from the lowest wanted node up, no call is unfinished.
  induction call using descends.induction with
  | h call ih =>
    obtain ⟨goal, other, lower, wanted, unfinished', wanted', above⟩ :=
      lower_of_jam valid admitted jammed coherent unfinished
    exact ih other ⟨goal, lower, wanted, wanted', above⟩ unfinished'

/-- The root is locked for listing its children, a directory to be made there waits for that, and a third
call has to wait for the writer. Only the first can go on. -/
theorem deadlock_free_with_writer :
    let fs : FileSystem :=
      ⟨.unix, ⟨"memfs", "key", false⟩, {}, ⟨[(.slash, 0)]⟩, .slash, ⟨[], []⟩, false⟩
    let start : Graph := (({} : Graph).add (.newDirectory · 0o755 none)).1
    let path : Path := .element ⟨none, ["a"], '/', by simp⟩
    let calls (call : Fin 3) : Plan Answer := fs.plan <|
      match call with
      | 0 => .listChildren (.root .slash)
      | 1 => .createDirectory path
      | 2 => .readBasic path
    ∃ s, Run calls (opening start calls) [] s ∧ s.locks = ⟨[(0, .read)], [0]⟩ ∧
      (∀ call s', Move calls call s s' → call = 0) ∧
      ∃ call s', (s.stage call).isFinished = false ∧ Move calls call s s' := by
  intro fs start path calls
  obtain ⟨s, followed, contended, waiting, entering⟩ : ∃ s,
      follow? calls (opening start calls) [0, 1] = some ([], s) ∧ s.locks = ⟨[(0, .read)], [0]⟩ ∧
      s.stage 1 = .waiting [] 0 ∧ s.stage 2 = .entering [] 0 "a" [] := ⟨_, rfl, rfl, rfl, rfl⟩
  have run := Run.stay.follow followed
  have treelike : start.Treelike := Graph.treelike_empty.grafts (Graph.grafts_add rfl 0)
  refine ⟨s, run, contended, ?alone, deadlock_free
    (fun _ _ planned target graph => FileSystem.grafts_plan planned target graph) treelike run
    ⟨1, by rw [waiting]; rfl⟩⟩
  case alone =>
    rintro call s' ⟨t, lock, next, after, log, planned, turned, free⟩
    rw [contended] at free
    match call with
    | 0 => rfl
    | 1 =>
      rw [waiting] at turned
      cases planned
      cases turned
      cases free
    | 2 =>
      rw [entering] at turned
      cases planned
      cases turned
      cases free

end Traffic

end CoupledFs
