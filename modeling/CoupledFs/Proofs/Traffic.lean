import CoupledFs.Proofs.LockDiscipline
import Mathlib.Logic.Function.Basic

/-! Any number of calls on one graph at the same time. Each goes on step by step, and waits when the
locks of the others demand it. -/

namespace CoupledFs

namespace Stage

variable {α : Type}

/-- The answer of a call that is done with its work or was refused, though locks may be left. -/
def answer? : Stage α → Option (Except FsError α)
  | leaving _ answer => some answer
  | entering .. | looking .. | arriving .. | waiting .. | working .. => none

def isFinished : Stage α → Bool
  | leaving [] _ => true
  | leaving (_ :: _) _ | entering .. | looking .. | arriving .. | waiting .. | working .. => false

@[simp]
theorem answer?_toward (held : List NodeId) (node : NodeId) (names : List String) :
    (toward held node names : Stage α).answer? = none := by
  cases names <;> rfl

theorem isFinished_iff {stage : Stage α} :
    stage.isFinished = true ↔ ∃ answer, stage = .leaving [] answer := by
  cases stage with
  | leaving locks answer => cases locks <;> simp [isFinished]
  | entering _ _ _ _ | looking _ _ _ _ | arriving _ _ | waiting _ _ | working _ _ =>
    simp [isFinished]

end Stage

namespace Traversal

variable {α : Type} {graph : Graph}

/-- All that a traversal can do next. -/
inductive Moves (t : Traversal α) (graph : Graph) :
    Stage α → LockStep → Stage α → Graph → Prop where
  | enter (held : List NodeId) (node : NodeId) (name : String) (names : List String) :
    Moves t graph (.entering held node name names) (.acquire node .read)
      (.looking held node name names) graph
  | pass (held : List NodeId) (names : List String) (linked : graph.child? node name = some child) :
    Moves t graph (.looking held node name names) (.lookUp node)
      (.toward (node :: held) child names) graph
  | stop (held : List NodeId) (names : List String) (missing : graph.child? node name = none) :
    Moves t graph (.looking held node name names) (.lookUp node)
      (.leaving (readLocks (node :: held)) (.error (t.stopError graph node held.length))) graph
  | share (held : List NodeId) (target : NodeId) (reads : t.mode = .read) :
    Moves t graph (.arriving held target) (.acquire target .read) (.working held target) graph
  | ask (held : List NodeId) (target : NodeId) (writes : t.mode = .write) :
    Moves t graph (.arriving held target) (.await target) (.waiting held target) graph
  | claim (held : List NodeId) (target : NodeId) :
    Moves t graph (.waiting held target) (.acquire target t.mode) (.working held target) graph
  | work (held : List NodeId) (target : NodeId) :
    Moves t graph (.working held target) (.operate target)
      (.leaving ((target, t.mode) :: readLocks held) (t.work target graph).answer)
      (t.work target graph).state
  | release (node : NodeId) (mode : LockMode) (locks : List (NodeId × LockMode))
      (answer : Except FsError α) :
    Moves t graph (.leaving ((node, mode) :: locks) answer) (.release node mode)
      (.leaving locks answer) graph

theorem moves_of_turn {t : Traversal α} {stage : Stage α}
    (turned : t.turn graph stage = .step lock next after log) :
    t.Moves graph stage lock next after := by
  cases stage with
  | entering held node name names =>
    cases turned
    exact .enter held node name names
  | looking held node name names =>
    cases turned
    cases linked : graph.child? node name with
    | some child =>
      rw [t.lookUp_of_child? linked]
      exact .pass held names linked
    | none =>
      rw [t.lookUp_of_stop linked]
      exact .stop held names linked
  | arriving held target =>
    cases mode : t.mode with
    | read =>
      simp only [turn, mode, lockTarget] at turned
      cases turned
      exact .share held target mode
    | write =>
      simp only [turn, mode] at turned
      cases turned
      exact .ask held target mode
  | waiting held target =>
    cases turned
    exact .claim held target
  | working held target =>
    cases turned
    exact .work held target
  | leaving locks answer =>
    cases locks with
    | nil => cases turned
    | cons lock locks =>
      cases turned
      exact .release lock.1 lock.2 locks answer

theorem exists_turn (t : Traversal α) (graph : Graph) (unfinished : stage.isFinished = false) :
    ∃ lock next after log, t.turn graph stage = .step lock next after log := by
  cases stage with
  | arriving held target => cases mode : t.mode <;> simp [turn, mode, lockTarget]
  | leaving locks answer =>
    cases locks with
    | nil => cases unfinished
    | cons lock locks => simp [turn]
  | entering _ _ _ _ | looking _ _ _ _ | waiting _ _ | working _ _ => simp [turn, lockTarget]

/-- Whether the nodes that a call has passed still are the way to where it is now. -/
def OnRoute (t : Traversal α) (graph : Graph) : Stage α → Prop
  | .entering held node name names | .looking held node name names =>
    ∃ front, t.path.segments = front ++ name :: names ∧
      Route graph t.start front held.reverse node
  | .arriving held target | .working held target =>
    Route graph t.start t.path.segments held.reverse target
  | .waiting held target =>
    t.mode = .write ∧ Route graph t.start t.path.segments held.reverse target
  | .leaving .. => True

theorem onRoute_toward {t : Traversal α} (front : List String)
    (names : t.path.segments = front ++ rest)
    (route : Route graph t.start front held.reverse node) :
    t.OnRoute graph (.toward held node rest) := by
  cases rest with
  | nil =>
    change Route graph t.start t.path.segments held.reverse node
    rwa [names, List.append_nil]
  | cons name rest => exact ⟨front, names, route⟩

theorem onRoute_begin (t : Traversal α) (graph : Graph) : t.OnRoute graph t.begin :=
  onRoute_toward [] (List.nil_append _).symm (.here t.start)

theorem OnRoute.mono {t : Traversal α} (grown : graph.Extends after) (valid : t.OnRoute graph stage) :
    t.OnRoute after stage := by
  cases stage with
  | entering held node name names =>
    obtain ⟨front, same, route⟩ := valid
    exact ⟨front, same, route.mono grown⟩
  | looking held node name names =>
    obtain ⟨front, same, route⟩ := valid
    exact ⟨front, same, route.mono grown⟩
  | arriving held target => exact Route.mono grown valid
  | waiting held target => exact ⟨valid.1, valid.2.mono grown⟩
  | working held target => exact Route.mono grown valid
  | leaving locks answer => trivial

theorem OnRoute.moves {t : Traversal α} (valid : t.OnRoute graph stage)
    (moved : t.Moves graph stage lock next after) : t.OnRoute after next := by
  cases moved with
  | enter => exact valid
  | @pass _ name _ held names linked =>
    obtain ⟨front, same, route⟩ := valid
    apply onRoute_toward (front ++ [name])
    · rw [same, List.append_assoc]
      rfl
    · rw [List.reverse_cons]
      exact route.concat linked
  | share => exact valid
  | ask held target writes => exact ⟨writes, valid⟩
  | claim => exact valid.2
  | stop | work | release => trivial

/-- Work that takes away no links. -/
def Grows (t : Traversal α) : Prop :=
  ∀ (target : NodeId) (graph : Graph), graph.Extends (t.work target graph).state

/-- The graph changes by the work of a traversal only. -/
theorem Moves.graph_cases {t : Traversal α} (moved : t.Moves graph stage lock next after) :
    after = graph ∨
      ∃ held target, stage = .working held target ∧ after = (t.work target graph).state := by
  cases moved with
  | work held target => exact .inr ⟨held, target, rfl, rfl⟩
  | enter | pass | stop | share | ask | claim | release => exact .inl rfl

theorem Moves.extends {t : Traversal α} (grows : t.Grows)
    (moved : t.Moves graph stage lock next after) : graph.Extends after := by
  rcases moved.graph_cases with rfl | ⟨held, target, -, rfl⟩
  · exact .refl _
  · exact grows target graph

end Traversal

/-- Where a call stands before anything is done; one that is refused is over at once. -/
def Plan.opening : Plan α → Stage α
  | .ok t => t.begin
  | .error error => .leaving [] (.error error)

@[simp]
theorem Plan.answer?_opening_ok (t : Traversal α) : (Plan.opening (.ok t)).answer? = none :=
  Stage.answer?_toward ..

@[simp]
theorem Plan.answer?_opening_error (error : FsError) :
    (Plan.opening (.error error : Plan α)).answer? = some (.error error) :=
  rfl

/-- Calls under way: the graph, the locks on its nodes, and the stage of each call. -/
structure Traffic (ι α : Type) where
  graph : Graph
  locks : LockTable
  stage : ι → Stage α

namespace Traffic

variable {ι α : Type} {calls : ι → Plan α}

def opening (graph : Graph) (calls : ι → Plan α) : Traffic ι α :=
  ⟨graph, {}, fun call => (calls call).opening⟩

def later (s : Traffic ι α) (now : Int) : Traffic ι α :=
  { s with graph := { s.graph with clock := now } }

/-- Every call is on its way. -/
def OnRoute (calls : ι → Plan α) (s : Traffic ι α) : Prop :=
  ∀ call t, calls call = .ok t → t.OnRoute s.graph (s.stage call)

def Grows (calls : ι → Plan α) : Prop :=
  ∀ call t, calls call = .ok t → t.Grows

theorem onRoute_opening (start : Graph) (calls : ι → Plan α) :
    (opening start calls).OnRoute calls := by
  intro call t planned
  simp only [opening, planned, Plan.opening]
  exact t.onRoute_begin start

theorem extends_later (s : Traffic ι α) (now : Int) : s.graph.Extends (s.later now).graph :=
  fun _ _ _ linked => linked

variable [DecidableEq ι]

/-- One call takes its next step, for which it need not wait. -/
inductive Move (calls : ι → Plan α) (call : ι) : Traffic ι α → Traffic ι α → Prop where
  | turn {s : Traffic ι α} (t : Traversal α) (lock : LockStep) (next : Stage α) (after : Graph)
      (log : List Log.Record) (planned : calls call = .ok t)
      (turned : t.turn s.graph (s.stage call) = .step lock next after log)
      (free : s.locks.permits lock = true) :
      Move calls call s ⟨after, s.locks.after lock, Function.update s.stage call next⟩

/-- Whether a call gets its answer between two states. -/
def decides (call : ι) (s s' : Traffic ι α) : Bool :=
  (s.stage call).answer?.isNone && (s'.stage call).answer?.isSome

/-- What calls can do together, one step at a time, and the order in which they get their answers.
Time passes as it likes. -/
inductive Run (calls : ι → Plan α) (start : Traffic ι α) : List ι → Traffic ι α → Prop where
  | stay : Run calls start [] start
  | tick (run : Run calls start order s) (now : Int) : Run calls start order (s.later now)
  | move (run : Run calls start order s) (moved : Move calls call s s') :
      Run calls start (order ++ if decides call s s' then [call] else []) s'

/-- The calls after one of them has taken its next step, if it has one and need not wait. -/
def advance? (calls : ι → Plan α) (s : Traffic ι α) (call : ι) : Option (Traffic ι α) :=
  match calls call with
  | .error _ => none
  | .ok t =>
    match t.turn s.graph (s.stage call) with
    | .done _ => none
    | .step lock next after _ =>
      if s.locks.permits lock then
        some ⟨after, s.locks.after lock, Function.update s.stage call next⟩
      else none

theorem move_of_advance? (advanced : advance? calls s call = some s') : Move calls call s s' := by
  unfold advance? at advanced
  split at advanced
  · cases advanced
  rename_i t planned
  split at advanced
  · cases advanced
  rename_i lock next after log turned
  split at advanced
  · rename_i free
    cases advanced
    exact .turn t lock next after log planned turned free
  · cases advanced

/-- The calls after steps that are taken in a given order, and the order in which they get their
answers. -/
def follow? (calls : ι → Plan α) (s : Traffic ι α) : List ι → Option (List ι × Traffic ι α)
  | [] => some ([], s)
  | call :: schedule => do
    let next ← advance? calls s call
    let (order, final) ← follow? calls next schedule
    return ((if decides call s next then [call] else []) ++ order, final)

theorem Run.follow (run : Run calls start earlier s)
    (followed : follow? calls s schedule = some (order, s')) :
    Run calls start (earlier ++ order) s' := by
  induction schedule generalizing s earlier order with
  | nil =>
    cases followed
    rwa [List.append_nil]
  | cons call schedule ih =>
    simp only [follow?, Option.bind_eq_bind, Option.bind_eq_some_iff, Option.pure_def] at followed
    obtain ⟨next, advanced, ⟨rest, final⟩, later, same⟩ := followed
    cases same
    rw [← List.append_assoc]
    exact ih (run.move (move_of_advance? advanced)) later

/-- What a step of a call does: it is a step of its traversal, and leaves the other calls where
they are. -/
theorem Move.exists_step (moved : Move calls call s s') :
    ∃ t lock, calls call = .ok t ∧
      t.Moves s.graph (s.stage call) lock (s'.stage call) s'.graph ∧
      s.locks.permits lock = true ∧ s'.locks = s.locks.after lock ∧
      ∀ other, other ≠ call → s'.stage other = s.stage other := by
  obtain ⟨t, lock, next, after, log, planned, turned, free⟩ := moved
  refine ⟨t, lock, planned, ?_, free, rfl, fun other differs => Function.update_of_ne differs _ _⟩
  simpa using Traversal.moves_of_turn turned

theorem Move.extends (grows : Grows calls) (moved : Move calls call s s') :
    s.graph.Extends s'.graph := by
  obtain ⟨t, lock, planned, step, -⟩ := moved.exists_step
  exact step.extends (grows call t planned)

theorem OnRoute.move (grows : Grows calls) (valid : OnRoute calls s)
    (moved : Move calls call s s') : OnRoute calls s' := by
  have grown := moved.extends grows
  obtain ⟨t, lock, planned, step, -, -, others⟩ := moved.exists_step
  intro other t' planned'
  by_cases same : other = call
  · subst other
    cases planned.symm.trans planned'
    exact (valid call t planned).moves step
  · rw [others other same]
    exact (valid other t' planned').mono grown

theorem Run.onRoute (grows : Grows calls) (run : Run calls (opening start calls) order s) :
    OnRoute calls s := by
  induction run with
  | stay => exact onRoute_opening start calls
  | tick _ now ih => exact fun call t planned => (ih call t planned).mono (extends_later _ now)
  | move _ moved ih => exact ih.move grows moved

theorem Run.refused (run : Run calls (opening start calls) order s)
    (refused : calls call = .error error) : s.stage call = .leaving [] (.error error) := by
  induction run with
  | stay => simp [opening, refused, Plan.opening]
  | tick _ _ ih => exact ih
  | @move _ _ mover _ _ moved ih =>
    obtain ⟨t, lock, planned, -, -, -, others⟩ := moved.exists_step
    have differs : call ≠ mover := by
      rintro rfl
      cases refused.symm.trans planned
    rw [others call differs, ih]

/-- A call that is not finished takes its next step, or has to wait for it. -/
theorem exists_move_or_hindered (planned : calls call = .ok t)
    (unfinished : (s.stage call).isFinished = false) :
    (∃ s', Move calls call s s') ∨
      ∃ lock next after log, t.turn s.graph (s.stage call) = .step lock next after log ∧
        s.locks.permits lock = false := by
  obtain ⟨lock, next, after, log, turned⟩ := t.exists_turn s.graph unfinished
  cases free : s.locks.permits lock with
  | true => exact .inl ⟨_, .turn t lock next after log planned turned free⟩
  | false => exact .inr ⟨lock, next, after, log, turned, free⟩

end Traffic

end CoupledFs
