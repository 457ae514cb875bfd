import CoupledFs.FileSystem
import CoupledFs.Proofs.Growth
import CoupledFs.Proofs.LockDiscipline
import CoupledFs.Proofs.Outcome

/-! What can be asked of the tree of a file system. Serving a request is performing what was planned
before any lock was taken. -/

namespace CoupledFs

/-- What can be asked of the tree of a file system. -/
inductive Request where
  | createDirectory (path : Path)
  | createFile (path : Path)
  | createSymbolicLink (link target : Path)
  | readBasic (path : Path)
  | readPosix (path : Path)
  | checkAccess (path : Path) (modes : List AccessMode)
  | listChildren (path : Path)
  deriving DecidableEq, Repr

inductive Answer where
  | done
  | basic (attributes : BasicAttributes)
  | posix (attributes : PosixAttributes)
  | names (names : List String)
  deriving DecidableEq, Repr

/-- What a request is about: a node to be made at a path, or a look at the node that is there. -/
inductive Intent where
  | make (path : Path) (make : Int → Node)
  | look (path : Path) (view : Path → Node → Except FsError Answer)

namespace FileSystem

def serve (fs : FileSystem) : Request → Action Graph Answer
  | .createDirectory path => do
    fs.createDirectory path
    return .done
  | .createFile path => do
    fs.createFile path
    return .done
  | .createSymbolicLink link target => do
    fs.createSymbolicLink link target
    return .done
  | .readBasic path => return .basic (← fs.readBasic path)
  | .readPosix path => return .posix (← fs.readPosix path)
  | .checkAccess path modes => do
    fs.checkAccess path modes
    return .done
  | .listChildren path => return .names (← fs.listChildren path)

def intent (fs : FileSystem) : Request → Intent
  | .createDirectory path =>
    .make path (.newDirectory · fs.config.directoryMode fs.config.ownership)
  | .createFile path => .make path (.newFile · fs.config.fileMode fs.config.ownership)
  | .createSymbolicLink link target =>
    .make link (.newSymlink · target.display fs.config.ownership)
  | .readBasic path => .look path fun _ node => .ok (.basic node.basicAttributes)
  | .readPosix path => .look path fun _ node => node.posixAttributes.map .posix
  | .checkAccess path modes =>
    .look path fun absolute node => (fs.accessTo modes absolute node).map fun _ => .done
  | .listChildren path => .look path fun absolute node => (namesIn absolute node).map .names

def planIntent (fs : FileSystem) : Intent → Plan Answer
  | .make path make => (fs.planCreate path make).map (·.map fun _ => .done)
  | .look path view => fs.planRead path view

/-- A plan that is refused unless the file system is open. -/
def whileOpen (fs : FileSystem) (plan : Plan α) : Plan α :=
  match fs.lifecycle.check with
  | .error error => .error error
  | .ok () => plan

/-- What a request comes to before any lock is taken. -/
def plan (fs : FileSystem) (request : Request) : Plan Answer :=
  fs.whileOpen (fs.planIntent (fs.intent request))

end FileSystem

variable {α β : Type}

namespace Traversal

variable {graph : Graph}

/-- The form of the answer makes no difference to the locks. -/
theorem footprint_map (f : α → β) (t : Traversal α) (graph : Graph) :
    ((t.map f).perform graph).footprint =
      (t.perform graph).footprint.map id (Prod.map (Except.map f) id) := by
  rcases Route.exists_or_stop graph t.start t.path.segments with
    ⟨above, target, route⟩ | ⟨front, name, rest, above, node, names, route, stop⟩
  · apply Prod.ext
    · exact ((t.map f).steps_of_route route).trans (t.steps_of_route route).symm
    · change _ = (t.perform graph).outcome.map (Except.map f) id
      rw [t.outcome_of_route route]
      exact ((t.map f).outcome_of_route route).trans (Action.outcome_map f (t.work target) graph)
  · apply Prod.ext
    · exact ((t.map f).steps_of_stop names route stop).trans (t.steps_of_stop names route stop).symm
    · change _ = (t.perform graph).outcome.map (Except.map f) id
      rw [t.outcome_of_stop names route stop]
      exact (t.map f).outcome_of_stop names route stop

end Traversal

namespace Plan

theorem footprint_ok (t : Traversal α) (graph : Graph) :
    (Plan.perform (.ok t) graph).footprint = (t.perform graph).footprint := by
  rw [perform, Action.footprint_bind]
  rfl

theorem footprint_error (error : FsError) (graph : Graph) :
    (Plan.perform (.error error : Plan α) graph).footprint = ([], .error error, graph) := by
  rw [perform, Action.footprint_bind]
  rfl

theorem outcome_ok (t : Traversal α) (graph : Graph) :
    (Plan.perform (.ok t) graph).outcome = (t.perform graph).outcome :=
  congrArg Prod.snd (footprint_ok t graph)

theorem outcome_error (error : FsError) (graph : Graph) :
    (Plan.perform (.error error : Plan α) graph).outcome = (.error error, graph) :=
  congrArg Prod.snd (footprint_error error graph)

theorem steps_error (error : FsError) (graph : Graph) :
    (Plan.perform (.error error : Plan α) graph).steps = [] :=
  congrArg Prod.fst (@footprint_error α error graph)

theorem footprint_map (f : α → β) (plan : Plan α) (graph : Graph) :
    (Plan.perform (Except.map (·.map f) plan) graph).footprint =
      (plan.perform graph).footprint.map id (Prod.map (Except.map f) id) := by
  cases plan with
  | error error =>
    rw [Except.map, footprint_error, footprint_error]
    rfl
  | ok t => rw [Except.map, footprint_ok, footprint_ok, t.footprint_map]

end Plan

namespace FileSystem

theorem check_of_open {fs : FileSystem} (opened : fs.isOpen = true) : fs.lifecycle.check = .ok () :=
  if_pos opened

theorem plan_of_open {fs : FileSystem} (opened : fs.isOpen = true) (request : Request) :
    fs.plan request = fs.planIntent (fs.intent request) := by
  rw [plan, whileOpen, check_of_open opened]

theorem footprint_ensureOpen (fs : FileSystem) (operation : String) (state : Graph) :
    (fs.ensureOpen operation state).footprint = ([], fs.lifecycle.check, state) := by
  unfold ensureOpen
  cases fs.lifecycle.check <;> rfl

theorem outcome_ensureOpen (fs : FileSystem) (operation : String) (state : Graph) :
    (fs.ensureOpen operation state).outcome = (fs.lifecycle.check, state) :=
  congrArg Prod.snd (fs.footprint_ensureOpen operation state)

theorem planRead_map (fs : FileSystem) (path : Path) (view : Path → Node → Except FsError α)
    (f : α → β) :
    fs.planRead path (fun absolute node => (view absolute node).map f) =
      (fs.planRead path view).map (·.map f) := by
  unfold planRead
  cases fs.resolveRoot path with
  | error error => rfl
  | ok found =>
    have looked : look found.1 (fun absolute node => (view absolute node).map f) =
        fun target => f <$> look found.1 view target := by
      funext target graph
      rw [Action.map_apply]
      rfl
    exact congrArg (fun work => Except.ok (Traversal.mk .read found.2 found.1 work)) looked

private theorem footprint_make (fs : FileSystem) (path : Path) (make : Int → Node)
    (operation : String) (span : Log.Span) (event : Log.Event) (graph : Graph) :
    ((do
      Action.within span (do
        fs.ensureOpen operation
        (fs.planCreate path make).perform
        Action.report event)
      return Answer.done) graph).footprint =
      (Plan.perform (fs.whileOpen (fs.planIntent (.make path make))) graph).footprint := by
  rw [Action.footprint_bind, Action.footprint_within, Action.footprint_bind, footprint_ensureOpen,
    whileOpen]
  cases fs.lifecycle.check with
  | error error => exact (Plan.footprint_error error graph).symm
  | ok =>
    simp only [Action.footprint_bind]
    rw [planIntent, Plan.footprint_map]
    cases performed : ((fs.planCreate path make).perform graph).footprint with
    | mk steps outcome =>
      obtain ⟨answer, after⟩ := outcome
      cases answer with
      | error error => rfl
      | ok =>
        have made : (steps ++ []) ++ [] = steps := by rw [List.append_nil, List.append_nil]
        exact congrArg (·, Except.ok Answer.done, after) made

private theorem footprint_look (fs : FileSystem) (operation : String) (path : Path)
    (view : Path → Node → Except FsError α) (f : α → Answer) (graph : Graph) :
    ((do return f (← fs.readNode operation path view)) graph).footprint =
      (Plan.perform (fs.whileOpen (fs.planIntent
        (.look path fun absolute node => (view absolute node).map f))) graph).footprint := by
  change ((f <$> fs.readNode operation path view) graph).footprint = _
  rw [Action.footprint_map, readNode, Action.footprint_bind, footprint_ensureOpen, whileOpen]
  cases fs.lifecycle.check with
  | error error => exact (Plan.footprint_error error graph).symm
  | ok =>
    rw [planIntent, planRead_map, Plan.footprint_map]
    rfl

/-- Serving a request is performing its plan, but for the records: the same locks are taken in the same
order, and the same comes of it. -/
theorem footprint_serve (fs : FileSystem) (request : Request) (graph : Graph) :
    (fs.serve request graph).footprint = ((fs.plan request).perform graph).footprint := by
  cases request with
  | createDirectory path => exact fs.footprint_make ..
  | createFile path => exact fs.footprint_make ..
  | createSymbolicLink link target => exact fs.footprint_make ..
  | readBasic path => exact fs.footprint_look ..
  | readPosix path => exact fs.footprint_look ..
  | checkAccess path modes => exact fs.footprint_look _ _ _ (fun _ => .done) graph
  | listChildren path => exact fs.footprint_look ..

theorem outcome_serve (fs : FileSystem) (request : Request) (graph : Graph) :
    (fs.serve request graph).outcome = ((fs.plan request).perform graph).outcome :=
  congrArg Prod.snd (fs.footprint_serve request graph)

theorem steps_serve (fs : FileSystem) (request : Request) (graph : Graph) :
    (fs.serve request graph).steps = ((fs.plan request).perform graph).steps :=
  congrArg Prod.fst (fs.footprint_serve request graph)

section Work

variable {graph : Graph} {make : Int → Node} (parent absolute : Path)

theorem linkNew_of_leaf (leaf : (graph.node directory).isDirectory = false) :
    linkNew parent absolute name make directory graph =
      ⟨.error (.notADirectory parent.display), graph, []⟩ := by
  simp [linkNew, leaf]

theorem linkNew_of_taken (taken : graph.child? directory name = some child) :
    linkNew parent absolute name make directory graph =
      ⟨.error (.alreadyExists absolute.display), graph, []⟩ := by
  have found : (graph.node directory).child? name = some child := taken
  simp [linkNew, Node.linkable, Graph.isDirectory_of_child? taken, found]

theorem linkNew_of_free {id : NodeId} (directory : (graph.node id).isDirectory = true)
    (free : graph.child? id name = none) :
    linkNew parent absolute name make id graph = ⟨.ok (), graph.addUnder id name make, []⟩ := by
  have linkable := Node.linkable_eq_ok_iff.mpr ⟨directory, free⟩
  simp [linkNew, directory, linkable]

theorem grafts_linkNew (childless : ∀ now, (make now).children = []) (id : NodeId) :
    graph.Grafts id (linkNew parent absolute name make id graph).state := by
  cases directory : (graph.node id).isDirectory with
  | false =>
    rw [linkNew_of_leaf parent absolute directory]
    exact .refl id
  | true =>
    cases taken : graph.child? id name with
    | some child =>
      rw [linkNew_of_taken parent absolute taken]
      exact .refl id
    | none =>
      rw [linkNew_of_free parent absolute directory taken]
      exact Graph.grafts_addUnder directory taken (childless graph.clock)

end Work

theorem childless_of_intent {fs : FileSystem} (made : fs.intent request = .make path make)
    (now : Int) : (make now).children = [] := by
  cases request <;> cases made <;> rfl

/-- The traversal that makes a node in the directory at `parent`. -/
def makeAt (parent absolute : Path) (start : NodeId) (name : String) (make : Int → Node) :
    Traversal Answer :=
  Traversal.map (fun _ => .done) ⟨.write, start, parent, linkNew parent absolute name make⟩

theorem outcome_makeAt (parent absolute : Path) (start : NodeId) (name : String)
    (make : Int → Node) (target : NodeId) (graph : Graph) :
    ((makeAt parent absolute start name make).work target graph).outcome =
      (linkNew parent absolute name make target graph).outcome.map
        (Except.map fun _ => .done) id :=
  Action.outcome_map _ _ graph

section MakeAt

variable {graph : Graph} {parent : Path} {start : NodeId} (absolute : Path) (make : Int → Node)
  (route : Route graph start parent.segments above target)

include route

theorem outcome_makeAt_of_leaf (leaf : (graph.node target).isDirectory = false) :
    ((makeAt parent absolute start name make).perform graph).outcome =
      (.error (.notADirectory parent.display), graph) := by
  rw [Traversal.outcome_of_route (makeAt parent absolute start name make) route, outcome_makeAt,
    linkNew_of_leaf parent absolute leaf]
  rfl

theorem outcome_makeAt_of_taken (taken : graph.child? target name = some child) :
    ((makeAt parent absolute start name make).perform graph).outcome =
      (.error (.alreadyExists absolute.display), graph) := by
  rw [Traversal.outcome_of_route (makeAt parent absolute start name make) route, outcome_makeAt,
    linkNew_of_taken parent absolute taken]
  rfl

theorem outcome_makeAt_of_free (directory : (graph.node target).isDirectory = true)
    (free : graph.child? target name = none) :
    ((makeAt parent absolute start name make).perform graph).outcome =
      (.ok .done, graph.addUnder target name make) := by
  rw [Traversal.outcome_of_route (makeAt parent absolute start name make) route, outcome_makeAt,
    linkNew_of_free parent absolute directory free]
  rfl

end MakeAt

theorem planIntent_make {fs : FileSystem} {path : Path}
    (found : fs.resolveRoot path = .ok (absolute, start)) (writable : fs.store.readOnly = false)
    (named : absolute.lastSegment? = some name) (parented : absolute.parent? = some parent)
    (make : Int → Node) :
    fs.planIntent (.make path make) = .ok (makeAt parent absolute start name make) := by
  simp only [planIntent, planCreate, found, writable, named, parented]
  rfl

theorem outcome_serve_of_free {fs : FileSystem} {graph : Graph} {path : Path}
    (opened : fs.isOpen = true) (writable : fs.store.readOnly = false)
    (about : fs.intent request = .make path make)
    (resolved : fs.resolveRoot path = .ok (absolute, start))
    (named : absolute.lastSegment? = some name) (parented : absolute.parent? = some parent)
    (route : Route graph start parent.segments above target)
    (directory : (graph.node target).isDirectory = true)
    (free : graph.child? target name = none) :
    (fs.serve request graph).outcome = (.ok .done, graph.addUnder target name make) := by
  have planned : fs.plan request = .ok (makeAt parent absolute start name make) := by
    rw [plan_of_open opened, about]
    exact planIntent_make resolved writable named parented make
  rw [outcome_serve, planned, Plan.outcome_ok]
  exact outcome_makeAt_of_free absolute make route directory free

theorem plan_make_eq_ok {fs : FileSystem} (about : fs.intent request = .make path make)
    (planned : fs.plan request = .ok t) :
    ∃ absolute start name parent, fs.resolveRoot path = .ok (absolute, start) ∧
      fs.store.readOnly = false ∧ absolute.lastSegment? = some name ∧
      absolute.parent? = some parent ∧ t = makeAt parent absolute start name make := by
  unfold plan whileOpen at planned
  rw [about, planIntent, planCreate] at planned
  split at planned
  · cases planned
  split at planned
  · cases planned
  rename_i absolute start found
  split at planned
  · cases planned
  rename_i writable
  split at planned
  · rename_i name parent named above
    cases planned
    exact ⟨absolute, start, name, parent, found, by simpa using writable, named, above, rfl⟩
  · cases planned

theorem plan_look_eq_ok {fs : FileSystem} (about : fs.intent request = .look path view)
    (planned : fs.plan request = .ok t) :
    ∃ absolute start, fs.resolveRoot path = .ok (absolute, start) ∧
      t = ⟨.read, start, absolute, look absolute view⟩ := by
  unfold plan whileOpen at planned
  rw [about, planIntent, planRead] at planned
  split at planned
  · cases planned
  split at planned
  · cases planned
  · rename_i absolute start found
    cases planned
    exact ⟨absolute, start, found, rfl⟩

/-- A request does nothing to the graph but to hang a new node under its target. -/
theorem grafts_plan {fs : FileSystem} (planned : fs.plan request = .ok t) (target : NodeId)
    (graph : Graph) : graph.Grafts target (t.work target graph).state := by
  cases about : fs.intent request with
  | make path make =>
    obtain ⟨absolute, start, name, parent, -, -, -, -, rfl⟩ := plan_make_eq_ok about planned
    change graph.Grafts target
      (((makeAt parent absolute start name make).work target graph).outcome).2
    rw [outcome_makeAt]
    exact grafts_linkNew parent absolute (childless_of_intent about) target
  | look path view =>
    obtain ⟨absolute, start, -, rfl⟩ := plan_look_eq_ok about planned
    exact .refl target

end FileSystem

end CoupledFs
