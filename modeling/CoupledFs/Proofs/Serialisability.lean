import CoupledFs.Proofs.Creation

/-! Requests that are served at the same time come to what they would come to one at a time. -/

namespace CoupledFs

namespace Traffic

variable {ι : Type} {fs : FileSystem} {requests : ι → Request} {start : Graph}
  {s : Traffic ι Answer}

/-- Requests that were served at the same time came to what they come to one at a time, in the order
in which they got their answers. -/
structure Serialised (fs : FileSystem) (requests : ι → Request) (start : Graph) (order : List ι)
    (s : Traffic ι Answer) : Prop where
  /-- The order has each request in it that was not refused. -/
  once : order.Nodup
  settled : ∀ call, call ∈ order ↔ Admitted (fs.calls requests) call
  /-- Those that were refused may be placed anywhere in it, and times of day do not matter. -/
  inTurn : ∀ (clock : ι → Int) (placed : List ι), placed.filter (fs.admits requests) = order →
    FileSystem.untimedAnswers (fs.serveInTurn requests clock placed start).1 =
        placed.map s.said ∧
      (fs.serveInTurn requests clock placed start).2.untimed = s.graph.untimed
  /-- Of requests to make one node, one succeeds if none is refused. -/
  race : fs.store.readOnly = false → ∀ root front name parent,
    fs.nodeAt? start root front = some parent → (start.node parent).isDirectory = true →
    start.child? parent name = none →
    (∃ call absolute, fs.MakesAt (requests call) root (front ++ [name]) absolute) →
    ∃ winner absolute, fs.MakesAt (requests winner) root (front ++ [name]) absolute ∧
      s.answer? winner = some (.ok .done) ∧
      ∀ other absolute, fs.MakesAt (requests other) root (front ++ [name]) absolute →
        other ≠ winner → s.answer? other = some (.error (.alreadyExists absolute.display))

theorem answer?_of_finished (finished : (s.stage call).isFinished = true) :
    ∃ answer, s.answer? call = some answer := by
  obtain ⟨answer, same⟩ := Stage.isFinished_iff.mp finished
  exact ⟨answer, by rw [answer?, same]; rfl⟩

variable [DecidableEq ι]

/-- Whatever the locks let requests to a file system do in between one another, they come to what
they would come to one at a time, and no node that one of them has made is ever lost. -/
theorem serialisable (made : fs.Made start)
    (run : Run (fs.calls requests) (opening start (fs.calls requests)) order s) :
    Kept fs requests s ∧
      ((∀ call, (s.stage call).isFinished = true) → Serialised fs requests start order s) := by
  refine ⟨run.kept, fun finished => ?_⟩
  have tally := run.tally (fs.grows_calls requests)
  refine ⟨tally.once, ?settled, ?inTurn, ?race⟩
  case settled =>
    intro call
    obtain ⟨answer, answered⟩ := answer?_of_finished (finished call)
    rw [tally.listed, answered]
    simp
  case inTurn =>
    intro clock placed same
    obtain ⟨answers, final⟩ := run.replay clock
    have refused (call : ι) (error : FsError) (planned : fs.calls requests call = .error error) :
        s.said call = some (.error error) := by
      rw [said, answer?, run.refused planned]
      rfl
    rw [← same] at answers final
    obtain ⟨answers', final'⟩ :=
      FileSystem.serveInTurn_of_filter refused clock placed rfl answers
    exact ⟨answers', final'.trans final⟩
  case race =>
    rintro writable root front name parent place directory free ⟨racer, path, aims⟩
    have admitted (call : ι) (absolute : Path)
        (aims : fs.MakesAt (requests call) root (front ++ [name]) absolute) :
        Admitted (fs.calls requests) call :=
      FileSystem.plan_of_makesAt made.isOpen writable place aims
    have contest := run.contest made.rooted (contest_opening place directory free admitted)
    cases contest.stands with
    | undecided _ unanswered =>
      obtain ⟨answer, answered⟩ := answer?_of_finished (finished racer)
      cases (unanswered racer path aims).symm.trans answered
    | decided winner absolute _ wins success _ losers =>
      refine ⟨winner, absolute, wins, success, fun other absolute aims differs => ?_⟩
      rcases losers other absolute aims differs with unanswered | late
      · obtain ⟨answer, answered⟩ := answer?_of_finished (finished other)
        cases unanswered.symm.trans answered
      · exact late

/-- One request makes a directory where another one makes a file, and asks for the lock first. -/
theorem serialisable_race_for_one_name :
    let requests (first : Bool) : Request :=
      let path : Path := .element ⟨some .slash, ["a"], '/', by simp⟩
      if first then .createDirectory path else .createFile path
    ∃ fs start s, (FileSystem.build "key" .unix false {}).outcome = (.ok fs, start) ∧
      Run (fs.calls requests) (opening start (fs.calls requests)) [true, false] s ∧
      Kept fs requests s ∧ Serialised fs requests start [true, false] s := by
  intro requests
  let fs : FileSystem :=
    ⟨.unix, ⟨"memfs", "key", false⟩, {}, ⟨[(.slash, 0)]⟩, .slash, ⟨["root"], ["root"]⟩, false⟩
  let start : Graph := ⟨#[.newDirectory 0 0o755 (some ⟨"root", "root"⟩)], 0⟩
  have built : (FileSystem.build "key" .unix false {}).outcome = (.ok fs, start) := rfl
  obtain ⟨s, followed, finished⟩ : ∃ s,
      follow? (fs.calls requests) (opening start (fs.calls requests))
        [true, false, true, true, true, false, false, false] = some ([true, false], s) ∧
      ∀ call, (s.stage call).isFinished = true := ⟨_, rfl, by decide⟩
  have run := Run.stay.follow followed
  obtain ⟨kept, serialised⟩ := serialisable (.build built) run
  exact ⟨fs, start, s, built, run, kept, serialised finished⟩

/-- In a read-only file system, requests to make one node have no winner: all of them are refused
before they lock anything. -/
theorem race_without_winner :
    let config : Config := { Config.unix with readOnly := true }
    let requests (_ : Bool) : Request :=
      .createDirectory (.element ⟨some .slash, ["a"], '/', by simp⟩)
    ∃ fs start, (FileSystem.build "key" config false {}).outcome = (.ok fs, start) ∧
      fs.nodeAt? start .slash [] = some 0 ∧ (start.node 0).isDirectory = true ∧
      start.child? 0 "a" = none ∧
      (∀ call, ∃ absolute, fs.MakesAt (requests call) .slash ([] ++ ["a"]) absolute) ∧
      ∃ s, Run (fs.calls requests) (opening start (fs.calls requests)) [] s ∧
        ∀ call, (s.stage call).isFinished = true ∧ s.answer? call = some (.error .readOnly) :=
  ⟨_, _, rfl, rfl, rfl, rfl, fun _ => ⟨_, rfl, rfl, rfl⟩, _, .stay, fun _ => ⟨rfl, rfl⟩⟩

end Traffic

end CoupledFs
