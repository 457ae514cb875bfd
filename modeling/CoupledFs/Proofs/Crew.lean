import CoupledFs.Proofs.DirectoryTree
import CoupledFs.Proofs.Errands
import CoupledFs.Workload

/-! Workers that build in one file system at the same time, one call at a time in any order. How far
they have come depends on how many turns each of them has had, and on nothing else. -/

namespace CoupledFs.Workload

/-- What is left of a task after its next call, and what the call leaves behind. -/
def Task.advance (fs : FileSystem) (graph : Graph) : Task → Task × Graph
  | .done tally => (.done tally, graph)
  | .create path next =>
    let reply := fs.createDirectory path graph
    (next reply.answer, reply.state)
  | .read path next =>
    let reply := fs.readBasic path graph
    (next reply.answer, reply.state)

/-- Workers at work: the nodes so far, and what each worker is left to do. -/
structure Crew (threads : Nat) where
  graph : Graph
  tasks : Fin threads → Task

namespace Crew

variable {threads : Nat}

/-- The next call of a worker, made at some time of day. One that is done makes none. -/
def turn (fs : FileSystem) (crew : Crew threads) (step : Int × Fin threads) : Crew threads :=
  let (task, graph) := (crew.tasks step.2).advance fs { crew.graph with clock := step.1 }
  ⟨graph, Function.update crew.tasks step.2 task⟩

def run (fs : FileSystem) (crew : Crew threads) (steps : List (Int × Fin threads)) : Crew threads :=
  steps.foldl (turn fs) crew

def turns (steps : List (Int × Fin threads)) (worker : Fin threads) : Nat :=
  (steps.map Prod.snd).count worker

theorem turns_concat (steps : List (Int × Fin threads)) (step : Int × Fin threads) :
    turns (steps ++ [step]) = Function.update (turns steps) step.2 (turns steps step.2 + 1) := by
  funext worker
  by_cases same : worker = step.2
  · simp [turns, same]
  · simp [turns, same, Ne.symm same]

end Crew

namespace Worker

variable {worker : Worker}

@[simp]
theorem root?_path (worker : Worker) (names : List String) :
    (worker.path names).root? = some worker.root := by
  unfold path Path.ofParts
  cases names <;> rfl

@[simp]
theorem segments_path (worker : Worker) (names : List String) :
    (worker.path names).segments = names := by
  unfold path Path.ofParts
  cases names <;> rfl

theorem anchor_path (fs : FileSystem) (worker : Worker) (names : List String) :
    fs.anchor (worker.path names) = worker.root := by
  simp [FileSystem.anchor]

end Worker

/-- An errand that comes out as expected where there are directories in the given places. -/
inductive Errand.Able (fs : FileSystem) (places : List String → Prop) : Errand → Prop where
  | make {front : List String} {name : String} (writable : fs.store.readOnly = false)
      (above : places front) (free : ¬ places (front ++ [name])) :
      Able fs places (.make (front ++ [name]))
  | refuse (names : List String) (readOnly : fs.store.readOnly = true) :
      Able fs places (.refuse names)
  | look {names : List String} (there : places names) : Able fs places (.look names)

/-- A task that is at an errand goes on to the next, and the directories that the errand makes are
there from then on. -/
theorem Follows.advance {fs : FileSystem} {graph : Graph} {places : List String → Prop}
    (follows : Follows worker total task (errand :: errands)) (opened : fs.isOpen = true)
    (tree : fs.DirectoryTree graph worker.root places) (top : places [])
    (able : Errand.Able fs places errand) :
    Follows worker total (task.advance fs graph).1 errands ∧
      fs.DirectoryTree (task.advance fs graph).2 worker.root
        fun names => places names ∨ names ∈ makings [errand] := by
  have nothing (names : List String) : (places names ∨ names ∈ ([] : List (List String))) ↔
      places names := by simp
  cases follows with
  | make later =>
    rename_i names next
    cases able with
    | make writable above free =>
      rename_i front name
      have tree' : fs.DirectoryTree graph (fs.anchor (worker.path (front ++ [name]))) places := by
        rwa [worker.anchor_path]
      obtain ⟨after, made, grown⟩ := tree'.make opened writable (worker.segments_path _) above free
      obtain ⟨answer, state⟩ := Prod.mk.inj made
      simp only [Task.advance, answer, state]
      refine ⟨later, ?_⟩
      rw [worker.anchor_path] at grown
      exact grown.congr fun names => by simp [makings]
  | refuse later =>
    rename_i names next
    cases able with
    | refuse _ readOnly =>
      obtain ⟨start, known, -⟩ := FileSystem.isDirectoryAt_iff.mp (tree.present top)
      rw [FileSystem.nodeAt?_nil, ← worker.anchor_path fs names] at known
      have refused := FileSystem.outcome_createDirectory_of_readOnly opened readOnly known graph
      obtain ⟨answer, state⟩ := Prod.mk.inj refused
      simp only [Task.advance, answer, state]
      exact ⟨later, tree.congr nothing⟩
  | look later =>
    rename_i names next
    cases able with
    | look there =>
      have tree' : fs.DirectoryTree graph (fs.anchor (worker.path names)) places := by
        rwa [worker.anchor_path]
      have there' : places (worker.path names).segments := by rwa [worker.segments_path]
      obtain ⟨attributes, looked⟩ := tree'.look opened there'
      obtain ⟨answer, state⟩ := Prod.mk.inj looked
      simp only [Task.advance, answer, state]
      exact ⟨later attributes, tree.congr nothing⟩

theorem Follows.advance_from {fs : FileSystem} {graph : Graph} {places : List String → Prop}
    {errands : List Errand} {count : Nat} (follows : Follows worker total task (errands.drop count))
    (opened : fs.isOpen = true) (tree : fs.DirectoryTree graph worker.root places) (top : places [])
    (able : ∀ errand ∈ errands[count]?, Errand.Able fs places errand) :
    Follows worker total (task.advance fs graph).1 (errands.drop (count + 1)) ∧
      fs.DirectoryTree (task.advance fs graph).2 worker.root
        fun names => places names ∨ names ∈ makings errands[count]?.toList := by
  cases next : errands[count]? with
  | none =>
    have finished := List.getElem?_eq_none_iff.mp next
    rw [List.drop_eq_nil_of_le finished] at follows
    rw [List.drop_eq_nil_of_le (Nat.le_succ_of_le finished)]
    cases follows
    exact ⟨.done, tree.congr fun names => by simp [makings]⟩
  | some errand =>
    obtain ⟨inside, rfl⟩ := List.getElem?_eq_some_iff.mp next
    rw [List.drop_eq_getElem_cons inside] at follows
    exact follows.advance opened tree top (able _ next)

/-! ### All workers together -/

namespace Site

variable (site : Site) (request : Request)

/-- What the worker of a given number asks for in the course of its work. -/
def errands (number : Nat) : List Errand :=
  (site.worker request.fanout number).errands site.fs.store.readOnly request.depth

def total (number : Nat) : Tally :=
  (site.worker request.fanout number).total site.fs.store.readOnly request.depth

/-- The directories that the worker of a given number has made after so many turns. -/
def built (number turns : Nat) : List (List String) :=
  makings ((site.errands request number).take turns)

/-- The root and what workers have made. -/
def Place (turns : Fin request.threads → Nat) (names : List String) : Prop :=
  names = [] ∨ ∃ worker : Fin request.threads, names ∈ site.built request worker (turns worker)

theorem feasible_errands (number : Nat) :
    Worker.Feasible (site.worker request.fanout number).top site.fs.store.readOnly []
      (site.errands request number) :=
  Worker.feasible_errands _ _ _

theorem built_prefix (number turns : Nat) :
    site.built request number turns <+: makings (site.errands request number) := by
  refine ⟨makings ((site.errands request number).drop turns), ?_⟩
  rw [built, ← makings_append, List.take_append_drop]

theorem nodup_built (number turns : Nat) : (site.built request number turns).Nodup :=
  (site.feasible_errands request number).distinct_makings.1.sublist
    (site.built_prefix request number turns).sublist

theorem built_succ (number turns : Nat) : site.built request number (turns + 1) =
    site.built request number turns ++ makings (site.errands request number)[turns]?.toList := by
  rw [built, List.take_add_one, makings_append]
  rfl

variable {site request}

theorem number_eq_of_top {number other : Nat}
    (same : (site.worker request.fanout number).top = (site.worker request.fanout other).top) :
    number = other :=
  Nat.repr_inj.mp ((String.append_right_inj _).mp same)

theorem head?_of_built {number turns : Nat} (made : names ∈ site.built request number turns) :
    names.head? = some (site.worker request.fanout number).top :=
  ((site.feasible_errands request number).distinct_makings.2 names
    ((site.built_prefix request number turns).mem made)).1

theorem number_eq_of_built {number other turns turns' : Nat}
    (made : names ∈ site.built request number turns)
    (made' : names ∈ site.built request other turns') : number = other :=
  number_eq_of_top (Option.some.inj ((head?_of_built made).symm.trans (head?_of_built made')))

theorem place_update (turns : Fin request.threads → Nat) (worker : Fin request.threads)
    (names : List String) :
    site.Place request (Function.update turns worker (turns worker + 1)) names ↔
      site.Place request turns names ∨
        names ∈ makings (site.errands request worker)[turns worker]?.toList := by
  have others (other : Fin request.threads) (differs : other ≠ worker) :
      Function.update turns worker (turns worker + 1) other = turns other :=
    Function.update_of_ne differs _ _
  have mine : Function.update turns worker (turns worker + 1) worker = turns worker + 1 :=
    Function.update_self ..
  constructor
  · rintro (root | ⟨other, made⟩)
    · exact .inl (.inl root)
    · by_cases same : other = worker
      · subst same
        rw [mine, built_succ] at made
        exact (List.mem_append.mp made).imp_left fun old => .inr ⟨other, old⟩
      · rw [others other same] at made
        exact .inl (.inr ⟨other, made⟩)
  · rintro ((root | ⟨other, made⟩) | new)
    · exact .inl root
    · refine .inr ⟨other, ?_⟩
      by_cases same : other = worker
      · subst same
        rw [mine, built_succ]
        exact List.mem_append_left _ made
      · rwa [others other same]
    · refine .inr ⟨worker, ?_⟩
      rw [mine, built_succ]
      exact List.mem_append_right _ new

/-- The next errand of a worker comes out as expected, whatever the others have done so far. -/
theorem able (turns : Fin request.threads → Nat) (worker : Fin request.threads) :
    ∀ errand ∈ (site.errands request worker)[turns worker]?,
      Errand.Able site.fs (site.Place request turns) errand := by
  intro errand next
  obtain ⟨inside, rfl⟩ := List.getElem?_eq_some_iff.mp next
  have feasible := (site.feasible_errands request worker).drop (turns worker)
  rw [List.nil_append, List.drop_eq_getElem_cons inside] at feasible
  cases errand : (site.errands request worker)[turns worker] with
  | make names =>
    rw [errand] at feasible
    obtain ⟨writable, own, fresh, parent, -⟩ := feasible
    have named : names ≠ [] := by
      rintro rfl
      cases own
    rw [← List.dropLast_concat_getLast named]
    refine .make writable (parent.imp_right fun made => ⟨worker, made⟩) ?_
    rw [List.dropLast_concat_getLast named]
    -- What others have made is below other tops, so nothing but the worker's own could be in the way.
    rintro (root | ⟨other, made⟩)
    · exact named root
    · have mine := number_eq_of_top (Option.some.inj ((head?_of_built made).symm.trans own))
      rw [Fin.ext mine] at made
      exact fresh made
  | refuse names =>
    rw [errand] at feasible
    exact .refuse names feasible.1
  | look names =>
    rw [errand] at feasible
    exact .look (feasible.1.imp_right fun made => ⟨worker, made⟩)

end Site

namespace Crew

variable {site : Site} {request : Request}

/-- The workers of a workload before any of them has begun. -/
def opening (site : Site) (request : Request) (graph : Graph) : Crew request.threads :=
  ⟨graph, fun worker => (site.worker request.fanout worker).task request.depth⟩

/-- How far workers have come that have had so many turns each. -/
structure Reached (site : Site) (request : Request) (turns : Fin request.threads → Nat)
    (crew : Crew request.threads) : Prop where
  tree : site.fs.DirectoryTree crew.graph site.root (site.Place request turns)
  follows : ∀ worker : Fin request.threads, Follows (site.worker request.fanout worker)
    (site.total request worker) (crew.tasks worker)
    ((site.errands request worker).drop (turns worker))

/-- A turn takes the worker whose turn it is one errand further, and none of the others. -/
theorem Reached.turn {turns : Fin request.threads → Nat} {crew : Crew request.threads}
    (reached : Reached site request turns crew) (opened : site.fs.isOpen = true)
    (step : Int × Fin request.threads) :
    Reached site request (Function.update turns step.2 (turns step.2 + 1))
      (crew.turn site.fs step) := by
  obtain ⟨now, worker⟩ := step
  have tree := reached.tree.at_time now
  obtain ⟨follows, grown⟩ := (reached.follows worker).advance_from opened tree (.inl rfl)
    (Site.able turns worker)
  refine ⟨grown.congr (Site.place_update turns worker), fun other => ?_⟩
  by_cases same : other = worker
  · subst same
    simpa [Crew.turn] using follows
  · simpa [Crew.turn, same] using reached.follows other

theorem reached_opening {graph : Graph}
    (tree : site.fs.DirectoryTree graph site.root (· = [])) :
    Reached site request (fun _ => 0) (opening site request graph) where
  tree := tree.congr fun names => by simp [Site.Place, Site.built, makings]
  follows := fun worker => Worker.follows_errands _ _ _

/-- Whatever the order of turns, how far workers have come is a matter of how many each has had. -/
theorem reached_run {graph : Graph} (tree : site.fs.DirectoryTree graph site.root (· = []))
    (opened : site.fs.isOpen = true) (steps : List (Int × Fin request.threads)) :
    Reached site request (turns steps) ((opening site request graph).run site.fs steps) := by
  -- The last turn comes off, since it finds what the turns before it have left.
  induction steps using List.reverseRecOn with
  | nil => exact reached_opening tree
  | append_singleton steps step ih =>
    rw [turns_concat, run, List.foldl_append]
    exact ih.turn opened step

end Crew

end CoupledFs.Workload
