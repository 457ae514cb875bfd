import CoupledFs.Action

/-! What requests come to, leaving aside the traces that they leave, and the steps that they take under
locks. -/

namespace CoupledFs

variable {σ α β : Type}

/-- The answer and the state, without the trace. -/
def Reply.outcome (reply : Reply σ α) : Except FsError α × σ :=
  (reply.answer, reply.state)

/-- All of a reply but the records. -/
def Reply.footprint (reply : Reply σ α) : List LockStep × Except FsError α × σ :=
  (reply.steps, reply.outcome)

theorem Reply.steps_behind (reply : Reply σ α) (trace : List Deed) :
    (reply.behind trace).steps = trace.filterMap Deed.step? ++ reply.steps :=
  List.filterMap_append ..

theorem Reply.log_behind (reply : Reply σ α) (trace : List Deed) :
    (reply.behind trace).log = trace.filterMap Deed.record? ++ reply.log :=
  List.filterMap_append ..

namespace Action

theorem outcome_bind (action : Action σ α) (next : α → Action σ β) (state : σ) :
    ((action >>= next) state).outcome =
      match (action state).outcome with
      | (.ok value, between) => (next value between).outcome
      | (.error error, after) => (.error error, after) := by
  cases reply : action state with
  | mk answer after trace => cases answer <;> simp [bind, reply, Reply.outcome, Reply.behind]

theorem steps_bind (action : Action σ α) (next : α → Action σ β) (state : σ) :
    ((action >>= next) state).steps = (action state).steps ++
      match (action state).outcome with
      | (.ok value, between) => (next value between).steps
      | (.error _, _) => [] := by
  cases reply : action state with
  | mk answer after trace =>
    cases answer with
    | error error => simp [bind, reply, Reply.outcome, Reply.steps]
    | ok value =>
      simp only [bind, reply]
      exact Reply.steps_behind ..

theorem footprint_bind (action : Action σ α) (next : α → Action σ β) (state : σ) :
    ((action >>= next) state).footprint =
      match (action state).footprint with
      | (steps, .ok value, between) => (next value between).footprint.map (steps ++ ·) id
      | (steps, .error error, after) => (steps, .error error, after) := by
  rw [Reply.footprint, Reply.footprint, outcome_bind, steps_bind]
  cases (action state).outcome with
  | mk answer between => cases answer <;> simp [Reply.footprint]

@[simp]
theorem outcome_within (span : Log.Span) (action : Action σ α) (state : σ) :
    (action.within span state).outcome = (action state).outcome :=
  rfl

@[simp]
theorem steps_within (span : Log.Span) (action : Action σ α) (state : σ) :
    (action.within span state).steps = (action state).steps := by
  have same : Deed.step? ∘ Deed.within span = Deed.step? := by
    funext deed
    cases deed <;> rfl
  simp only [within, Reply.steps, List.filterMap_map, same]

@[simp]
theorem footprint_within (span : Log.Span) (action : Action σ α) (state : σ) :
    (action.within span state).footprint = (action state).footprint :=
  Prod.ext (steps_within span action state) (outcome_within span action state)

@[simp]
theorem log_within (span : Log.Span) (action : Action σ α) (state : σ) :
    (action.within span state).log = (action state).log.map (·.within span) := by
  have same : Deed.record? ∘ Deed.within span = fun deed => deed.record?.map (·.within span) := by
    funext deed
    cases deed <;> rfl
  simp only [within, Reply.log, List.filterMap_map, same, List.map_filterMap]

@[simp]
theorem outcome_inspect (view : σ → α) (state : σ) :
    (inspect view state).outcome = (.ok (view state), state) :=
  rfl

theorem outcome_onPart {τ : Type} (part : σ → τ) (withPart : σ → τ → σ) (action : Action τ α)
    (state : σ) : (onPart part withPart action state).outcome =
      (action (part state)).outcome.map id (withPart state) :=
  rfl

theorem map_apply (f : α → β) (action : Action σ α) (state : σ) :
    (f <$> action) state = { action state with answer := (action state).answer.map f } := by
  change (action >>= fun value => pure (f value)) state = _
  cases reply : action state with
  | mk answer after trace => cases answer <;> simp [bind, pure, reply, Except.map, Reply.behind]

theorem outcome_map (f : α → β) (action : Action σ α) (state : σ) :
    ((f <$> action) state).outcome = (action state).outcome.map (Except.map f) id := by
  rw [map_apply]
  rfl

theorem steps_map (f : α → β) (action : Action σ α) (state : σ) :
    ((f <$> action) state).steps = (action state).steps := by
  rw [map_apply]
  rfl

theorem footprint_map (f : α → β) (action : Action σ α) (state : σ) :
    ((f <$> action) state).footprint =
      (action state).footprint.map id (Prod.map (Except.map f) id) :=
  Prod.ext (steps_map f action state) (outcome_map f action state)

end Action

end CoupledFs
