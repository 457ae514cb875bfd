import CoupledFs.Proofs.Traffic
import CoupledFs.Proofs.Untimed
import CoupledFs.Proofs.Upkeep

/-! Requests that are served at the same time come to what they would come to one at a time. Links
are never taken away, so what a request found on its way down still holds when it gets its answer,
and it gets the answer that it would get if it was served then and at once. -/

namespace CoupledFs

namespace Traversal

variable {α : Type} {graph : Graph}

/-- A step that settles a traversal leaves what the traversal alone would come to. -/
theorem Moves.outcome_of_settle {t : Traversal α} (moved : t.Moves graph stage lock next after)
    (valid : t.OnRoute graph stage) (unsettled : stage.answer? = none)
    (settled : next.answer? = some answer) : (t.perform graph).outcome = (answer, after) := by
  cases moved with
  | stop held names missing =>
    cases settled
    obtain ⟨front, same, route⟩ := valid
    rw [t.outcome_of_stop same route missing, List.length_reverse]
  | work held target =>
    cases settled
    exact t.outcome_of_route valid
  | pass held names linked => cases settled.symm.trans (Stage.answer?_toward ..)
  | enter | share | ask | claim => cases settled
  | release => cases unsettled

theorem Moves.quiet_or_settle {t : Traversal α} (moved : t.Moves graph stage lock next after) :
    (next.answer? = stage.answer? ∧ after = graph) ∨
      stage.answer? = none ∧ ∃ answer, next.answer? = some answer := by
  cases moved with
  | pass held names linked => exact .inl ⟨Stage.answer?_toward .., rfl⟩
  | stop held names missing => exact .inr ⟨rfl, _, rfl⟩
  | work held target => exact .inr ⟨rfl, _, rfl⟩
  | enter | share | ask | claim | release => exact .inl ⟨rfl, rfl⟩

end Traversal

namespace Traffic

variable {ι α : Type} {calls : ι → Plan α} {s s' : Traffic ι α}

def answer? (s : Traffic ι α) (call : ι) : Option (Except FsError α) :=
  (s.stage call).answer?

/-- A call that is not refused before it locks anything. -/
def Admitted (calls : ι → Plan α) (call : ι) : Prop := ∃ t, calls call = .ok t

/-- An order that has every admitted call with an answer in it once, and nothing else. -/
structure Tally (calls : ι → Plan α) (order : List ι) (s : Traffic ι α) : Prop where
  once : order.Nodup
  listed : ∀ call, call ∈ order ↔ Admitted calls call ∧ (s.answer? call).isSome = true

theorem tally_opening (start : Graph) (calls : ι → Plan α) :
    Tally calls [] (opening start calls) where
  once := .nil
  listed := by
    intro call
    simp only [List.not_mem_nil, false_iff]
    rintro ⟨⟨t, planned⟩, answered⟩
    simp [answer?, opening, planned] at answered

variable [DecidableEq ι]

/-- A step either settles its call, with what the call alone would come to, or changes no answer and
not the graph. -/
theorem Move.quiet_or_settle (moved : Move calls call s s') (valid : OnRoute calls s) :
    (∀ other, s'.answer? other = s.answer? other) ∧ s'.graph = s.graph ∧
        decides call s s' = false ∨
      ∃ t answer, calls call = .ok t ∧ decides call s s' = true ∧ s.answer? call = none ∧
        s'.answer? call = some answer ∧ (t.perform s.graph).outcome = (answer, s'.graph) ∧
        ∀ other, other ≠ call → s'.answer? other = s.answer? other := by
  obtain ⟨t, lock, planned, step, -, -, others⟩ := moved.exists_step
  have kept (other : ι) (differs : other ≠ call) : s'.answer? other = s.answer? other :=
    congrArg Stage.answer? (others other differs)
  rcases step.quiet_or_settle with ⟨same, graph⟩ | ⟨unsettled, answer, settled⟩
  · refine .inl ⟨fun other => ?_, graph, ?_⟩
    · by_cases mover : other = call
      · subst other
        exact same
      · exact kept other mover
    · unfold decides
      rw [same]
      cases (s.stage call).answer? <;> rfl
  · refine .inr ⟨t, answer, planned, ?_, unsettled, settled, ?_, kept⟩
    · simp [decides, unsettled, settled]
    · exact step.outcome_of_settle (valid call t planned) unsettled settled

theorem Tally.move (tally : Tally calls order s) (valid : OnRoute calls s)
    (moved : Move calls call s s') :
    Tally calls (order ++ if decides call s s' then [call] else []) s' := by
  rcases moved.quiet_or_settle valid with
    ⟨same, -, quiet⟩ | ⟨t, answer, planned, settles, unsettled, settled, -, others⟩
  · rw [quiet]
    refine ⟨by simpa using tally.once, fun other => ?_⟩
    rw [same]
    simpa using tally.listed other
  · have unlisted : call ∉ order := by
      intro member
      have answered := ((tally.listed call).mp member).2
      rw [unsettled] at answered
      cases answered
    rw [settles, if_pos rfl]
    refine ⟨List.nodup_append.mpr ⟨tally.once, by simp, ?_⟩, fun other => ?_⟩
    · rintro first member second last rfl
      exact unlisted (List.mem_singleton.mp last ▸ member)
    · by_cases mover : other = call
      · subst other
        simp only [List.mem_append, List.mem_singleton, or_true, settled, Option.isSome_some,
          and_true, true_iff]
        exact ⟨t, planned⟩
      · rw [others other mover, ← tally.listed other]
        simp [mover]

theorem Run.tally (grows : Grows calls) (run : Run calls (opening start calls) order s) :
    Tally calls order s := by
  induction run with
  | stay => exact tally_opening start calls
  | tick _ _ ih => exact ⟨ih.once, ih.listed⟩
  | move run moved ih => exact ih.move (run.onRoute grows) moved

end Traffic

namespace FileSystem

variable {ι : Type} {fs : FileSystem} {requests : ι → Request}

def calls (fs : FileSystem) (requests : ι → Request) (call : ι) : Plan Answer :=
  fs.plan (requests call)

/-- Serves requests one after the other, each at its own time of day. -/
def serveInTurn (fs : FileSystem) (requests : ι → Request) (clock : ι → Int) :
    List ι → Graph → List (Except FsError Answer) × Graph
  | [], graph => ([], graph)
  | call :: order, graph =>
    let reply := fs.serve (requests call) { graph with clock := clock call }
    let (answers, final) := fs.serveInTurn requests clock order reply.state
    (reply.answer :: answers, final)

theorem serveInTurn_concat (clock : ι → Int) (order : List ι) (call : ι) (graph : Graph) :
    fs.serveInTurn requests clock (order ++ [call]) graph =
      let earlier := fs.serveInTurn requests clock order graph
      let reply := fs.serve (requests call) { earlier.2 with clock := clock call }
      (earlier.1 ++ [reply.answer], reply.state) := by
  induction order generalizing graph with
  | nil => rfl
  | cons first order ih => simp only [List.cons_append, serveInTurn, ih]

def untimedAnswers (answers : List (Except FsError Answer)) : List (Option (Except FsError Answer)) :=
  answers.map fun answer => some (answer.map Answer.untimed)

def admits (fs : FileSystem) (requests : ι → Request) (call : ι) : Bool :=
  (fs.calls requests call).isOk

theorem admits_iff {call : ι} :
    fs.admits requests call = true ↔ ∃ t, fs.calls requests call = .ok t := by
  unfold admits
  cases fs.calls requests call <;> simp [Except.isOk, Except.toBool]

theorem serve_of_refused (refused : fs.calls requests call = .error error) (graph : Graph) :
    (fs.serve (requests call) graph).answer = .error error ∧
      (fs.serve (requests call) graph).state = graph := by
  have planned : fs.plan (requests call) = .error error := refused
  have served := fs.outcome_serve (requests call) graph
  rw [planned, Plan.outcome_error] at served
  exact Prod.mk.inj served

/-- Requests that are refused may be served at any point among the others. -/
theorem serveInTurn_of_filter {said : ι → Option (Except FsError Answer)}
    (refused : ∀ call error, fs.calls requests call = .error error → said call = some (.error error))
    (clock : ι → Int) (placed : List ι) {graph other : Graph} (same : graph.untimed = other.untimed)
    (answers : untimedAnswers
        (fs.serveInTurn requests clock (placed.filter (fs.admits requests)) other).1 =
      (placed.filter (fs.admits requests)).map said) :
    untimedAnswers (fs.serveInTurn requests clock placed graph).1 = placed.map said ∧
      (fs.serveInTurn requests clock placed graph).2.untimed =
        (fs.serveInTurn requests clock (placed.filter (fs.admits requests)) other).2.untimed := by
  induction placed generalizing graph other with
  | nil => exact ⟨rfl, same⟩
  | cons call placed ih =>
    cases planned : fs.calls requests call with
    | error error =>
      have left : ¬ fs.admits requests call = true := by
        simp [admits, planned, Except.isOk, Except.toBool]
      obtain ⟨answered, kept⟩ := serve_of_refused planned { graph with clock := clock call }
      rw [List.filter_cons_of_neg left] at answers ⊢
      have later : (fs.serve (requests call) { graph with clock := clock call }).state.untimed =
          other.untimed := by rw [kept, Graph.untimed_at_time, same]
      obtain ⟨rest, final⟩ := ih later answers
      refine ⟨?_, final⟩
      simp only [serveInTurn, untimedAnswers, List.map_cons, answered] at rest ⊢
      rw [rest, refused call error planned]
      rfl
    | ok t =>
      have taken : fs.admits requests call = true := admits_iff.mpr ⟨t, planned⟩
      have timed : ({ graph with clock := clock call } : Graph).untimed =
          ({ other with clock := clock call } : Graph).untimed := same
      obtain ⟨answered, later⟩ := Prod.mk.inj (fs.untimed_serve (requests call) timed)
      rw [List.filter_cons_of_pos taken] at answers ⊢
      simp only [serveInTurn, untimedAnswers, List.map_cons, List.cons.injEq] at answers
      obtain ⟨rest, final⟩ := ih later answers.2
      refine ⟨?_, final⟩
      simp only [serveInTurn, untimedAnswers, List.map_cons] at rest ⊢
      rw [rest, ← answers.1]
      exact congrArg (· :: _) (congrArg some answered)

theorem grows_calls (fs : FileSystem) (requests : ι → Request) :
    Traffic.Grows (fs.calls requests) :=
  fun _ _ planned target graph => (grafts_plan planned target graph).kept

end FileSystem

namespace Traffic

variable {ι : Type} {fs : FileSystem} {requests : ι → Request} {start : Graph}
  {s : Traffic ι Answer}

/-- The answer that a call has got, without times. -/
def said (s : Traffic ι Answer) (call : ι) : Option (Except FsError Answer) :=
  (s.answer? call).map (Except.map Answer.untimed)

theorem outcome_serve_of_settle (planned : fs.calls requests call = .ok t)
    (alone : (t.perform s.graph).outcome = (answer, after)) (graph : Graph)
    (same : graph.untimed = s.graph.untimed) :
    (fs.serve (requests call) graph).answer.map Answer.untimed = answer.map Answer.untimed ∧
      (fs.serve (requests call) graph).state.untimed = after.untimed := by
  have served := fs.untimed_serve (requests call) same
  have planned' : fs.plan (requests call) = .ok t := planned
  rw [fs.outcome_serve _ s.graph, planned', Plan.outcome_ok, alone] at served
  exact Prod.mk.inj served

variable [DecidableEq ι]

/-- Serving the settled requests one at a time in the order in which they were settled comes to the
same. -/
theorem Run.replay (run : Run (fs.calls requests) (opening start (fs.calls requests)) order s)
    (clock : ι → Int) :
    FileSystem.untimedAnswers (fs.serveInTurn requests clock order start).1 = order.map s.said ∧
      (fs.serveInTurn requests clock order start).2.untimed = s.graph.untimed := by
  induction run with
  | stay => exact ⟨rfl, rfl⟩
  | tick _ _ ih => exact ih
  | @move order s call s' run moved ih =>
    obtain ⟨answers, graph⟩ := ih
    have grows := fs.grows_calls requests
    rcases moved.quiet_or_settle (run.onRoute grows) with
      ⟨same, kept, quiet⟩ | ⟨t, answer, planned, settles, unsettled, settled, alone, others⟩
    · have said : s'.said = s.said := funext fun other => congrArg _ (same other)
      rw [quiet, said, kept]
      simpa using ⟨answers, graph⟩
    · obtain ⟨answered, left⟩ := outcome_serve_of_settle planned alone
        { (fs.serveInTurn requests clock order start).2 with clock := clock call } graph
      have earlier : order.map s'.said = order.map s.said := by
        apply List.map_congr_left
        rintro other member
        have listed := ((run.tally grows).listed other).mp member
        have differs : other ≠ call := by
          rintro rfl
          rw [unsettled] at listed
          cases listed.2
        exact congrArg _ (others other differs)
      have last : s'.said call = some (answer.map Answer.untimed) := by rw [said, settled]; rfl
      rw [settles, if_pos rfl, FileSystem.serveInTurn_concat]
      refine ⟨?_, left⟩
      unfold FileSystem.untimedAnswers at answers ⊢
      simp only [List.map_append, List.map_cons, List.map_nil, answers, earlier, last, answered]

end Traffic

end CoupledFs
