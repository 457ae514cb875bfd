import CoupledFs.Proofs.Replay

/-! What becomes of requests to make nodes among others: a node that was made stays, and of those
that want to make one node, one succeeds. -/

namespace CoupledFs

namespace FileSystem

variable {fs : FileSystem} {graph : Graph}

theorem bare_of_intent (made : fs.intent request = .make path make) (now : Int) :
    (make now).bare = (make 0).bare := by
  cases request <;> cases made <;> rfl

theorem Effect.find? (effect : fs.Effect request graph (.ok answer) after)
    (made : fs.intent request = .make path make) :
    ∃ node, fs.find? after path = some node ∧ node < after.size ∧
      (after.node node).bare = (make 0).bare := by
  cases effect with
  | nothing _ idle =>
    obtain ⟨path', view, looks⟩ := idle answer rfl
    cases made.symm.trans looks
  | growth about absolute_eq rooted anchor segments route directory free =>
    cases made.symm.trans about
    have found := resolveRoot_eq_ok.mpr ⟨absolute_eq, _, rooted, anchor⟩
    have childless := childless_of_intent about graph.clock
    have grown := Graph.extends_addUnder directory free childless
    refine ⟨graph.size, ?_, by simp, ?_⟩
    · simp only [FileSystem.find?, found]
      rw [segments, Graph.resolve_concat, (route.mono grown).resolve]
      simp [Graph.child?_addUnder directory free childless]
    · rw [Graph.node_addUnder directory, if_pos rfl]
      exact bare_of_intent about graph.clock

/-- The path at which a request makes a node, in its absolute form. -/
def made? (fs : FileSystem) (request : Request) : Option Path :=
  match fs.intent request with
  | .make path _ => some (path.toAbsolute fs.defaultRoot)
  | .look .. => none

/-- A request to make a node in a place. -/
structure MakesAt (fs : FileSystem) (request : Request) (root : Root) (names : List String)
    (absolute : Path) : Prop where
  made : fs.made? request = some absolute
  root : absolute.root? = some root
  names : absolute.segments = names

theorem made?_eq_some : fs.made? request = some absolute ↔
    ∃ path make, fs.intent request = .make path make ∧
      absolute = path.toAbsolute fs.defaultRoot := by
  unfold made?
  cases fs.intent request with
  | make path make => simp [eq_comm]
  | look path view => simp

theorem plan_of_makesAt (opened : fs.lifecycle.isOpen = true) (writable : fs.store.readOnly = false)
    (known : fs.nodeAt? graph root front = some parent)
    (aims : fs.MakesAt request root (front ++ [name]) absolute) :
    ∃ t, fs.plan request = .ok t := by
  obtain ⟨made, rooted, segments⟩ := aims
  obtain ⟨path, make, about, rfl⟩ := made?_eq_some.mp made
  obtain ⟨start, anchor, -⟩ := Option.bind_eq_some_iff.mp known
  have found := resolveRoot_eq_ok.mpr ⟨rfl, root, rooted, anchor⟩
  obtain ⟨last, parent, named, above⟩ := Path.parent_of_segments rooted segments
  refine ⟨makeAt parent (path.toAbsolute fs.defaultRoot) start last make, ?_⟩
  rw [plan, whileOpen, Lifecycle.check, opened, about,
    planIntent_make found writable named above]
  rfl

section Race

variable (place : fs.nodeAt? graph root front = some parent)
  (directory : (graph.node parent).isDirectory = true)

include place directory

/-- A request that wants to make the node in question makes it if it is not there. -/
theorem outcome_of_racer (aims : fs.MakesAt request root (front ++ [name]) absolute)
    (planned : fs.plan request = .ok t) :
    (∃ child, graph.child? parent name = some child ∧
        (t.perform graph).outcome = (.error (.alreadyExists absolute.display), graph)) ∨
      graph.child? parent name = none ∧ ∃ after child,
        (t.perform graph).outcome = (.ok .done, after) ∧
        after.child? parent name = some child := by
  obtain ⟨made, rooted, segments⟩ := aims
  obtain ⟨path, make, about, rfl⟩ := made?_eq_some.mp made
  obtain ⟨absolute, start, last, above, found, -, named, parented, rfl⟩ :=
    plan_make_eq_ok about planned
  obtain ⟨rfl, root', rooted', anchor⟩ := resolveRoot_eq_ok.mp found
  cases rooted.symm.trans rooted'
  rw [Path.segments_of_parent parented named] at segments
  obtain ⟨same, last⟩ := List.append_inj' segments rfl
  cases List.singleton_inj.mp last
  obtain ⟨start', anchor', reached⟩ := Option.bind_eq_some_iff.mp place
  cases anchor.symm.trans anchor'
  rw [← same] at reached
  obtain ⟨passed, route⟩ := Route.of_resolve reached
  cases taken : graph.child? parent name with
  | some child => exact .inl ⟨child, rfl, outcome_makeAt_of_taken _ make route taken⟩
  | none =>
    refine .inr ⟨rfl, _, graph.size, outcome_makeAt_of_free _ make route directory taken, ?_⟩
    simp [Graph.child?_addUnder directory taken (childless_of_intent about graph.clock)]

omit directory in
/-- A request that does not want to make the node in question leaves it as it is. -/
theorem Effect.child?_of_bystander (effect : fs.Effect request graph answer after)
    (valid : fs.Rooted graph)
    (aims : ∀ absolute, ¬ fs.MakesAt request root (front ++ [name]) absolute) :
    after.child? parent name = graph.child? parent name := by
  cases effect with
  | nothing => rfl
  | growth about absolute_eq rooted anchor segments route directory free =>
    rw [Graph.child?_addUnder directory free (childless_of_intent about graph.clock), if_neg]
    rintro ⟨rfl, rfl⟩
    have place' : fs.nodeAt? graph _ _ = some _ :=
      Option.bind_eq_some_iff.mpr ⟨_, anchor, route.resolve⟩
    obtain ⟨rfl, rfl⟩ := valid.apart place place'
    exact aims _ ⟨made?_eq_some.mpr ⟨_, _, about, absolute_eq⟩, rooted, segments⟩

end Race

end FileSystem

namespace Traffic

variable {ι : Type} {fs : FileSystem} {requests : ι → Request} {start : Graph}
  {s s' : Traffic ι Answer}

/-- How requests to make a node under `name` in `parent` stand to one another. -/
inductive Standing (fs : FileSystem) (requests : ι → Request) (root : Root) (front : List String)
    (name : String) (parent : NodeId) (s : Traffic ι Answer) : Prop where
  /-- Nobody has made the node yet. -/
  | undecided (free : s.graph.child? parent name = none)
      (unanswered : ∀ call absolute,
        fs.MakesAt (requests call) root (front ++ [name]) absolute → s.answer? call = none)
  /-- One has made the node, and all others that have an answer came too late. -/
  | decided (winner : ι) (absolute : Path) (child : NodeId)
      (wins : fs.MakesAt (requests winner) root (front ++ [name]) absolute)
      (success : s.answer? winner = some (.ok .done))
      (linked : s.graph.child? parent name = some child)
      (losers : ∀ other absolute, fs.MakesAt (requests other) root (front ++ [name]) absolute →
        other ≠ winner → s.answer? other = none ∨
          s.answer? other = some (.error (.alreadyExists absolute.display)))

/-- Requests that want to make one node in an existing directory. -/
structure Contest (fs : FileSystem) (requests : ι → Request) (root : Root) (front : List String)
    (name : String) (parent : NodeId) (s : Traffic ι Answer) : Prop where
  place : fs.nodeAt? s.graph root front = some parent
  directory : (s.graph.node parent).isDirectory = true
  stands : Standing fs requests root front name parent s

section Standing

variable (stands : Standing fs requests root front name parent s)

include stands

theorem Standing.congr (child : s'.graph.child? parent name = s.graph.child? parent name)
    (answers : ∀ call absolute, fs.MakesAt (requests call) root (front ++ [name]) absolute →
      s'.answer? call = s.answer? call) : Standing fs requests root front name parent s' := by
  cases stands with
  | undecided free unanswered =>
    exact .undecided (child.trans free) fun call absolute aims =>
      (answers call absolute aims).trans (unanswered call absolute aims)
  | decided winner won node wins success linked losers =>
    refine .decided winner won node wins ((answers winner won wins).trans success)
      (child.trans linked) fun other absolute aims differs => ?_
    rw [answers other absolute aims]
    exact losers other absolute aims differs

variable {call : ι} (aims : fs.MakesAt (requests call) root (front ++ [name]) absolute)
  (others : ∀ other, other ≠ call → s'.answer? other = s.answer? other)

include aims others

theorem Standing.late (taken : s.graph.child? parent name = some child)
    (kept : s'.graph = s.graph) (unsettled : s.answer? call = none)
    (settled : s'.answer? call = some (.error (.alreadyExists absolute.display))) :
    Standing fs requests root front name parent s' := by
  cases stands with
  | undecided free _ => cases free.symm.trans taken
  | decided winner won node wins success linked losers =>
    have apart : winner ≠ call := by
      rintro rfl
      cases unsettled.symm.trans success
    refine .decided winner won node wins ((others winner apart).trans success) (by rwa [kept])
      fun other absolute' aims' differs => ?_
    by_cases here : other = call
    · subst here
      cases aims.made.symm.trans aims'.made
      exact .inr settled
    · rw [others other here]
      exact losers other absolute' aims' differs

/-- The first request to get there wins. -/
theorem Standing.first (free : s.graph.child? parent name = none)
    (linked : s'.graph.child? parent name = some child)
    (settled : s'.answer? call = some (.ok .done)) :
    Standing fs requests root front name parent s' := by
  cases stands with
  | undecided _ unanswered =>
    refine .decided call absolute child aims settled linked fun other absolute' aims' differs => ?_
    rw [others other differs]
    exact .inl (unanswered other absolute' aims')
  | decided _ _ _ _ _ taken _ => cases free.symm.trans taken

end Standing

theorem contest_opening (place : fs.nodeAt? start root front = some parent)
    (directory : (start.node parent).isDirectory = true) (free : start.child? parent name = none)
    (admitted : ∀ call absolute, fs.MakesAt (requests call) root (front ++ [name]) absolute →
      Admitted (fs.calls requests) call) :
    Contest fs requests root front name parent (opening start (fs.calls requests)) := by
  refine ⟨place, directory, .undecided free fun call absolute aims => ?_⟩
  obtain ⟨t, planned⟩ := admitted call absolute aims
  simp [answer?, opening, planned]

variable [DecidableEq ι]

/-- A step changes the graph as its request does when it is served alone, or not at all. -/
theorem Move.effect (moved : Move (fs.calls requests) call s s')
    (valid : OnRoute (fs.calls requests) s) :
    (∀ other, s'.answer? other = s.answer? other) ∧ s'.graph = s.graph ∨
      ∃ answer, fs.Effect (requests call) s.graph answer s'.graph ∧
        s'.answer? call = some answer ∧
        ∀ other, other ≠ call → s'.answer? other = s.answer? other := by
  rcases moved.quiet_or_settle valid with
    ⟨same, kept, -⟩ | ⟨t, answer, planned, -, -, settled, alone, others⟩
  · exact .inl ⟨same, kept⟩
  · have effect := FileSystem.effect_of_perform planned s.graph
    rw [alone] at effect
    exact .inr ⟨answer, effect, settled, others⟩

theorem Run.rooted (run : Run (fs.calls requests) (opening start (fs.calls requests)) order s)
    (valid : fs.Rooted start) : fs.Rooted s.graph := by
  induction run with
  | stay => exact valid
  | tick _ now ih => exact ih.at_time now
  | move run moved ih =>
    rcases moved.effect (run.onRoute (fs.grows_calls requests)) with ⟨-, kept⟩ | ⟨_, effect, -⟩
    · rwa [kept]
    · exact effect.rooted ih

/-- Every node that was made is there, and is what it was made as. -/
def Kept (fs : FileSystem) (requests : ι → Request) (s : Traffic ι Answer) : Prop :=
  ∀ call path make answer, fs.intent (requests call) = .make path make →
    s.answer? call = some (.ok answer) →
    ∃ node, fs.find? s.graph path = some node ∧ node < s.graph.size ∧
      (s.graph.node node).bare = (make 0).bare

theorem Run.kept (run : Run (fs.calls requests) (opening start (fs.calls requests)) order s) :
    Kept fs requests s := by
  induction run with
  | stay =>
    intro call path make answer about answered
    cases planned : fs.calls requests call <;> simp [answer?, opening, planned] at answered
  | tick _ now ih =>
    intro call path make answer about answered
    obtain ⟨node, found, inside, same⟩ := ih call path make answer about answered
    exact ⟨node, FileSystem.find?_of_extends found (extends_later _ now), inside, same⟩
  | @move order s mover s' run moved ih =>
    have grows := fs.grows_calls requests
    intro call path make answer about answered
    rcases moved.effect (run.onRoute grows) with ⟨same, kept⟩ | ⟨got, effect, settled, others⟩
    · rw [same] at answered
      rw [kept]
      exact ih call path make answer about answered
    · by_cases here : call = mover
      · subst here
        cases settled.symm.trans answered
        exact effect.find? about
      · rw [others call here] at answered
        obtain ⟨node, found, inside, same⟩ := ih call path make answer about answered
        obtain ⟨inside', same'⟩ := effect.keeps node inside
        exact ⟨node, FileSystem.find?_of_extends found (moved.extends grows), inside',
          same'.trans same⟩

theorem Contest.move (contest : Contest fs requests root front name parent s)
    (moved : Move (fs.calls requests) call s s') (valid : OnRoute (fs.calls requests) s)
    (rooted : fs.Rooted s.graph) : Contest fs requests root front name parent s' := by
  obtain ⟨place, directory, stands⟩ := contest
  rcases moved.quiet_or_settle valid with
    ⟨same, kept, -⟩ | ⟨t, answer, planned, -, unsettled, settled, alone, others⟩
  · exact ⟨by rwa [kept], by rwa [kept], stands.congr (by rw [kept]) fun other _ _ => same other⟩
  have effect := FileSystem.effect_of_perform planned s.graph
  rw [alone] at effect
  refine ⟨FileSystem.nodeAt?_of_extends place (moved.extends (fs.grows_calls requests)), ?_, ?_⟩
  · rw [Node.isDirectory_of_bare (effect.keeps parent (rooted.inside place)).2, directory]
  by_cases racer : ∃ absolute, fs.MakesAt (requests call) root (front ++ [name]) absolute
  · obtain ⟨absolute, aims⟩ := racer
    rcases FileSystem.outcome_of_racer place directory aims planned with
      ⟨child, taken, late⟩ | ⟨free, after, child, made, linked⟩
    · obtain ⟨rfl, kept⟩ := Prod.mk.inj (alone.symm.trans late)
      exact stands.late aims others taken kept unsettled settled
    · obtain ⟨rfl, rfl⟩ := Prod.mk.inj (alone.symm.trans made)
      exact stands.first aims others free linked settled
  · have bystander := not_exists.mp racer
    refine stands.congr (effect.child?_of_bystander place rooted bystander)
      fun other absolute aims => others other ?_
    rintro rfl
    exact bystander absolute aims

theorem Run.contest (run : Run (fs.calls requests) (opening start (fs.calls requests)) order s)
    (valid : fs.Rooted start)
    (begun : Contest fs requests root front name parent (opening start (fs.calls requests))) :
    Contest fs requests root front name parent s := by
  induction run with
  | stay => exact begun
  | tick _ now ih =>
    exact ⟨FileSystem.nodeAt?_of_extends ih.place (extends_later _ now), ih.directory,
      ih.stands.congr rfl fun _ _ _ => rfl⟩
  | move run moved ih =>
    exact ih.move moved (run.onRoute (fs.grows_calls requests)) (run.rooted valid)

end Traffic

end CoupledFs
