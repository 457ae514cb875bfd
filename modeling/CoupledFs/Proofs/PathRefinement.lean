import CoupledFs.Proofs.Mirror
import CoupledFs.Proofs.PathModel
import CoupledFs.Proofs.Registry
import CoupledFs.Proofs.Untimed
import CoupledFs.Proofs.Upkeep

/-! A file system answers what its path maps answer. -/

namespace CoupledFs

theorem Path.display_of_parent {path parent : Path} (parented : path.parent? = some parent) :
    parent.display = path.displayUpTo parent.segments.length := by
  rw [← parent.displayUpTo_length, displayUpTo_of_parent parented (Nat.le_refl _)]

namespace FileSystem

variable {fs : FileSystem} {graph : Graph} {map : PathMap} {model : PathModel}

/-- A file system whose trees and openness are those of a model. -/
structure Refines (fs : FileSystem) (graph : Graph) (model : PathModel) : Prop where
  opened : model.isOpen = fs.isOpen
  readOnly : fs.store.readOnly = fs.config.readOnly
  rooted : fs.Rooted graph
  known : ∀ root, (model.maps root).isSome = (fs.roots.get? root).isSome
  mirrors : ∀ ⦃root map⦄, model.maps root = some map → fs.Mirrors graph root map

theorem Refines.at_time (refines : fs.Refines graph model) (now : Int) :
    fs.Refines { graph with clock := now } model where
  opened := refines.opened
  readOnly := refines.readOnly
  rooted := refines.rooted.at_time now
  known := refines.known
  mirrors := fun root map there names => by
    rw [refines.mirrors there names, entryAt?, entryAt?, fs.nodeAt?_at_time graph now]
    rfl

theorem refines_of_build {key : String} {config : Config} {registered : Bool} {before : Graph}
    {roots : List Root}
    (built : (build key config registered before).outcome = (.ok fs, graph))
    (named : config.resolvedRoots = .ok roots) : fs.Refines graph (.new config roots) := by
  obtain ⟨first, others, named', -, knows⟩ := knows_of_build built
  cases named.symm.trans named'
  have known (root : Root) : ((PathModel.new config (first :: others)).maps root).isSome =
      (fs.roots.get? root).isSome := by
    rw [Bool.eq_iff_iff, knows root]
    by_cases member : root ∈ first :: others <;> simp only [PathModel.new, member] <;> simp
  refine ⟨?opened, ?readOnly, rooted_of_build built, known, ?mirrors⟩
  case opened =>
    obtain ⟨_, _, -, rfl, -⟩ := build_eq_ok built
    rfl
  case readOnly =>
    obtain ⟨_, _, -, rfl, -⟩ := build_eq_ok built
    rfl
  case mirrors =>
    intro root map there names
    have anchored : (fs.roots.get? root).isSome = true := by rw [← known root, there]; rfl
    obtain ⟨start, anchor⟩ := Option.isSome_iff_exists.mp anchored
    simp only [PathModel.new, Option.ite_none_right_eq_some, Option.some.injEq] at there
    obtain ⟨-, rfl⟩ := there
    rw [PathMap.get?_single, entryAt?, nodeAt?_of_build built, anchor]
    split
    · simp [node_of_root built anchor]
      rfl
    · rfl

/-- What a request comes to in a file system, and the same in a model of it. -/
structure Agrees (fs : FileSystem) (outcome : Except FsError Answer × Graph)
    (modelled : Except FsError Answer × PathModel) : Prop where
  answer : outcome.1.map Answer.untimed = modelled.1
  refines : fs.Refines outcome.2 modelled.2

theorem Refines.locate (refines : fs.Refines graph model) (path : Path) :
    (∃ error, fs.resolveRoot path = .error error ∧
        model.locate fs.defaultRoot path = .error error) ∨
      ∃ absolute root start map, fs.resolveRoot path = .ok (absolute, start) ∧
        model.locate fs.defaultRoot path = .ok (absolute, root, map) ∧
        absolute.root? = some root ∧ fs.roots.get? root = some start ∧
        model.maps root = some map := by
  unfold resolveRoot PathModel.locate
  cases rooted : (path.toAbsolute fs.defaultRoot).root? with
  | none =>
    simp only [rooted, Option.bind_none]
    exact .inl ⟨_, rfl, rfl⟩
  | some root =>
    have known := refines.known root
    cases anchor : fs.roots.get? root with
    | none =>
      have unknown : model.maps root = none := by simpa [anchor] using known
      simp only [rooted, anchor, unknown, Option.bind_some, Option.map_none]
      exact .inl ⟨_, rfl, rfl⟩
    | some start =>
      obtain ⟨map, there⟩ := Option.isSome_iff_exists.mp (known.trans (by rw [anchor]; rfl))
      simp only [rooted, anchor, there, Option.bind_some, Option.map_some]
      exact .inr ⟨_, root, start, map, rfl, rfl, rooted, anchor, there⟩

theorem Refines.look (refines : fs.Refines graph model)
    {view : Path → Node → Except FsError Answer}
    {view' : Path → PathMap → Descriptor → Except FsError Answer}
    (same : ∀ ⦃absolute root map node⦄, model.maps root = some map →
      fs.nodeAt? graph root absolute.segments = some node →
      (view absolute (graph.node node)).map Answer.untimed =
        view' absolute map (graph.node node).descriptor) (path : Path) :
    fs.Agrees ((fs.planRead path view).perform graph).outcome
      (model.look fs.defaultRoot path view', model) := by
  rcases refines.locate path with
    ⟨error, unknown, unknown'⟩ | ⟨absolute, root, start, map, found, found', -, anchor, there⟩
  · rw [planRead, unknown, Plan.outcome_error, PathModel.look, unknown']
    exact ⟨rfl, refines⟩
  have mirrors := refines.mirrors there
  rw [planRead, found, Plan.outcome_ok, PathModel.look, found']
  rcases Route.exists_or_stop graph start absolute.segments with
    ⟨above, node, route⟩ | ⟨front, name, rest, above, node, names, route, stop⟩
  · have place : fs.nodeAt? graph root absolute.segments = some node := by
      simp [nodeAt?, anchor, route.resolve]
    rw [Traversal.outcome_of_route _ route]
    simp only [bind, Except.bind, mirrors.lookUp_of_route anchor route, ← same there place]
    exact ⟨rfl, refines⟩
  · have lost := mirrors.lookUp_of_stop anchor
      ⟨.read, start, absolute, FileSystem.look absolute view⟩ names route stop
    rw [Traversal.outcome_of_stop _ names route stop]
    simp only [bind, Except.bind, lost]
    exact ⟨rfl, refines⟩

/-- A traversal that stops above the end of a path names what the path has there. -/
theorem stopError_of_parent {absolute : Path} {t : Traversal α}
    (parented : absolute.parent? = some t.path) (longer : depth + 1 ≤ t.path.segments.length) :
    t.stopError graph node depth =
      if (graph.node node).isDirectory then .noSuchFile (absolute.displayUpTo (depth + 1))
      else .notADirectory (absolute.displayUpTo depth) := by
  rw [Traversal.stopError, Path.displayUpTo_of_parent parented longer,
    Path.displayUpTo_of_parent parented (Nat.le_of_succ_le longer)]

section Creation

variable {absolute parent : Path} {start : NodeId} (mirrors : fs.Mirrors graph root map)
  (anchor : fs.roots.get? root = some start) (named : absolute.lastSegment? = some name)
  (parented : absolute.parent? = some parent)

include mirrors anchor named parented

/-- What is in the way of making a node is in the way of making an entry, and nothing else is. -/
theorem Mirrors.obstacle?_or_arrive (make : Int → Node) :
    (∃ error, map.obstacle? absolute = some error ∧
        ((makeAt parent absolute start name make).perform graph).outcome = (.error error, graph)) ∨
      ∃ above target, map.obstacle? absolute = none ∧
        Route graph start parent.segments above target ∧
        (graph.node target).isDirectory = true := by
  have segments := Path.segments_of_parent parented named
  rcases Route.exists_or_stop graph start parent.segments with
    ⟨above, target, route⟩ | ⟨front, missing, rest, above, node, names, route, stop⟩
  · cases directory : (graph.node target).isDirectory with
    | false =>
      refine .inl ⟨_, mirrors.obstacle?_of_leaf anchor segments route directory, ?_⟩
      rw [outcome_makeAt_of_leaf absolute make route directory, Path.display_of_parent parented]
    | true =>
      exact .inr ⟨above, target, mirrors.obstacle?_of_directory anchor segments route directory,
        route, directory⟩
  · have longer : front.length + 1 ≤ parent.segments.length := by simp [names]
    rw [names, List.append_assoc, List.cons_append] at segments
    rw [Traversal.outcome_of_stop (makeAt parent absolute start name make) names route stop,
      stopError_of_parent parented (route.length_above ▸ longer), route.length_above]
    cases directory : (graph.node node).isDirectory with
    | false =>
      exact .inl ⟨_, mirrors.obstacle?_of_leaf anchor segments route directory, by simp⟩
    | true =>
      obtain ⟨next, later, same⟩ : ∃ next later, rest ++ [name] = next :: later :=
        List.exists_cons_of_ne_nil (by simp)
      rw [same] at segments
      exact .inl ⟨_, mirrors.obstacle?_of_missing anchor segments route directory stop, by simp⟩

/-- Making a node makes an entry, or fails as making an entry does. -/
theorem Mirrors.create (rooted : fs.Rooted graph) {make : Int → Node}
    (childless : (make graph.clock).children = []) :
    (∃ error, map.create absolute (make graph.clock).descriptor = .error error ∧
        ((makeAt parent absolute start name make).perform graph).outcome = (.error error, graph)) ∨
      ∃ map' after, map.create absolute (make graph.clock).descriptor = .ok map' ∧
        ((makeAt parent absolute start name make).perform graph).outcome = (.ok .done, after) ∧
        fs.Rooted after ∧ fs.Mirrors after root map' ∧
        ∀ other ≠ root, fs.entryAt? after other = fs.entryAt? graph other := by
  cases absolute with
  | root r => cases named
  | element e =>
    rcases mirrors.obstacle?_or_arrive anchor named parented make with
      ⟨error, barred, refused⟩ | ⟨above, target, clear, route, directory⟩
    · exact .inl ⟨error, PathMap.create_of_obstacle barred _, refused⟩
    have segments : e.segments = parent.segments ++ [name] :=
      Path.segments_of_parent parented named
    cases taken : graph.child? target name with
    | some child =>
      have found := mirrors.get?_of_route anchor (route.concat taken)
      rw [← segments] at found
      exact .inl ⟨_, PathMap.create_of_taken clear found _,
        outcome_makeAt_of_taken (.element e) make route taken⟩
    | none =>
      have free := mirrors.get?_of_missing anchor route taken
      rw [← segments] at free
      have place : fs.nodeAt? graph root parent.segments = some target := by
        simp [nodeAt?, anchor, route.resolve]
      refine .inr ⟨_, _, PathMap.create_of_free clear free _,
        outcome_makeAt_of_free (.element e) make route directory taken,
        rooted.addUnder place directory taken childless, fun names => ?_, fun other differs => ?_⟩
      · rw [PathMap.get?_insert, entryAt?_addUnder rooted place directory taken childless,
          ElementPath.lastSegment, List.dropLast_concat_getLast, segments, mirrors names]
        simp
      · funext names
        rw [entryAt?_addUnder rooted place directory taken childless,
          if_neg fun same => differs same.1]

end Creation

theorem Refines.update (refines : fs.Refines graph model) (there : model.maps root = some map)
    (rooted : fs.Rooted after) (mirrors : fs.Mirrors after root map')
    (others : ∀ other ≠ root, fs.entryAt? after other = fs.entryAt? graph other) :
    fs.Refines after { model with maps := Function.update model.maps root (some map') } where
  opened := refines.opened
  readOnly := refines.readOnly
  rooted := rooted
  known := fun other => by
    rw [← refines.known other]
    by_cases same : other = root
    · simp [same, there]
    · simp [same]
  mirrors := fun other map'' there'' names => by
    by_cases same : other = root
    · subst same
      simp only [Function.update_self, Option.some.injEq] at there''
      exact there'' ▸ mirrors names
    · simp only [Function.update_of_ne same] at there''
      rw [refines.mirrors there'' names, others other same]

/-- Requests to make a node come to what they come to in the model. -/
theorem Refines.create (refines : fs.Refines graph model) (path : Path) {make : Int → Node}
    {entry : Descriptor} (described : (make graph.clock).descriptor = entry)
    (childless : (make graph.clock).children = []) :
    fs.Agrees ((fs.planIntent (.make path make)).perform graph).outcome
      (model.create fs.config fs.defaultRoot path entry) := by
  subst described
  rcases refines.locate path with
    ⟨error, unknown, unknown'⟩ | ⟨absolute, root, start, map, found, found', rooted, anchor, there⟩
  · rw [planIntent, planCreate, unknown, PathModel.create, unknown']
    exact ⟨rfl, refines⟩
  rw [PathModel.create, found', ← refines.readOnly]
  cases writable : fs.store.readOnly with
  | true =>
    rw [planIntent, planCreate, found, writable]
    exact ⟨rfl, refines⟩
  | false =>
    cases absolute with
    | root r =>
      rw [planIntent, planCreate, found, writable]
      exact ⟨rfl, refines⟩
    | element e =>
      have segments := (List.dropLast_concat_getLast e.segments_ne_nil).symm
      obtain ⟨name, parent, named, parented⟩ :=
        @Path.parent_of_segments _ _ (.element e) root rooted segments
      rw [planIntent_make found writable named parented, Plan.outcome_ok]
      rcases (refines.mirrors there).create anchor named parented refines.rooted childless with
        ⟨error, refused', refused⟩ | ⟨map', after, made', made, rooted, mirrors, others⟩
      · simp only [Bool.false_eq_true, if_false, refused', refused]
        exact ⟨rfl, refines⟩
      · simp only [Bool.false_eq_true, if_false, made', made]
        exact ⟨rfl, refines.update there rooted mirrors others⟩

theorem posix_descriptor (node : Node) :
    (node.posixAttributes.map Answer.posix).map Answer.untimed = node.descriptor.posix := by
  unfold Node.posixAttributes Descriptor.posix Node.descriptor
  cases node.ownership <;> rfl

theorem Refines.access_descriptor (refines : fs.Refines graph model) (modes : List AccessMode)
    (absolute : Path) (node : Node) :
    ((fs.accessTo modes absolute node).map fun _ => Answer.done).map Answer.untimed =
      node.descriptor.access fs.config.readOnly absolute modes := by
  unfold accessTo Node.checkAccess Descriptor.access Node.descriptor
  rw [refines.readOnly]
  cases modes.find? fun mode => node.mode &&& mode.ownerBit = 0 with
  | some mode => rfl
  | none =>
    by_cases denied : fs.config.readOnly ∧ .write ∈ modes <;> simp [denied] <;> rfl

theorem Refines.names_descriptor (refines : fs.Refines graph model)
    (there : model.maps root = some map) {absolute : Path} {node : NodeId}
    (place : fs.nodeAt? graph root absolute.segments = some node) :
    ((namesIn absolute (graph.node node)).map Answer.names).map Answer.untimed =
      if (graph.node node).descriptor.kind = .directory
      then .ok (.names (map.namesBelow absolute.segments))
      else .error (.notADirectory absolute.display) := by
  rw [(refines.mirrors there).namesBelow refines.rooted place]
  unfold namesIn Node.childNames? Node.children Node.descriptor Node.kind
  cases (graph.node node).content <;> rfl

/-- Serving a request comes to what it comes to in the model. -/
theorem Refines.serve (refines : fs.Refines graph model) (request : Request) :
    fs.Agrees (fs.serve request graph).outcome (model.serve fs.config fs.defaultRoot request) := by
  unfold PathModel.serve
  rw [outcome_serve, plan, whileOpen, Lifecycle.check, refines.opened, isOpen]
  cases fs.lifecycle.isOpen with
  | false => exact ⟨rfl, refines⟩
  | true =>
    cases request with
    | createDirectory path | createFile path | createSymbolicLink link target =>
      exact refines.create _ rfl rfl
    | readBasic path => exact refines.look (fun _ _ _ _ _ _ => rfl) path
    | readPosix path => exact refines.look (fun _ _ _ _ _ _ => posix_descriptor _) path
    | checkAccess path modes =>
      exact refines.look (fun _ _ _ _ _ _ => refines.access_descriptor modes _ _) path
    | listChildren path =>
      exact refines.look (fun _ _ _ _ there place => refines.names_descriptor there place) path

theorem Refines.close (refines : fs.Refines graph model) :
    { fs with lifecycle := ⟨false⟩ }.Refines graph { model with isOpen := false } where
  opened := rfl
  readOnly := refines.readOnly
  rooted :=
    ⟨refines.rooted.inside, refines.rooted.apart, refines.rooted.anchored, refines.rooted.distinct⟩
  known := refines.known
  mirrors := refines.mirrors

end FileSystem

namespace Provider

variable {provider : Provider} {id : SystemId} {fs : FileSystem} {model : PathModel}

def perform (id : SystemId) : Call → Action Provider Answer
  | .request request => Provider.request id (·.serve request)
  | .close => do
    close id
    return .done

/-- The answers to calls that are made one after the other, each at its own time of day. -/
def performAll (id : SystemId) : List (Int × Call) → Provider → List (Except FsError Answer)
  | [], _ => []
  | (now, call) :: calls, provider =>
    let reply := perform id call { provider with graph := { provider.graph with clock := now } }
    reply.answer :: performAll id calls reply.state

/-- The file system of a given identity, which is modelled by path maps. -/
def Refines (provider : Provider) (id : SystemId) (config : Config) (defaultRoot : Root)
    (model : PathModel) : Prop :=
  ∃ fs, provider.system? id = some fs ∧ fs.config = config ∧ fs.defaultRoot = defaultRoot ∧
    fs.Refines provider.graph model

variable {config : Config} {defaultRoot : Root}

theorem Refines.perform (refines : provider.Refines id config defaultRoot model) (call : Call) :
    (perform id call provider).answer.map Answer.untimed =
        (model.perform config defaultRoot call).1 ∧
      (perform id call provider).state.Refines id config defaultRoot
        (model.perform config defaultRoot call).2 := by
  obtain ⟨fs, there, rfl, rfl, refines⟩ := refines
  cases call with
  | request call =>
    have agrees := refines.serve call
    obtain ⟨answer, after⟩ := Prod.mk.inj (outcome_request there (·.serve call))
    simp only [Provider.perform, PathModel.perform, answer, after]
    exact ⟨agrees.answer, fs, there, rfl, rfl, agrees.refines⟩
  | close =>
    obtain ⟨after, closed, graph, there'⟩ := outcome_close there
    have performed : (Provider.perform id .close provider).outcome = (.ok .done, after) := by
      rw [Provider.perform, Action.outcome_bind, closed]
      rfl
    obtain ⟨answer, after⟩ := Prod.mk.inj performed
    rw [answer, after]
    exact ⟨rfl, _, there', rfl, rfl, graph ▸ refines.close⟩

theorem Refines.performAll (refines : provider.Refines id config defaultRoot model)
    (calls : List (Int × Call)) :
    (performAll id calls provider).map (Except.map Answer.untimed) =
      model.answers config defaultRoot (calls.map Prod.snd) := by
  induction calls generalizing provider model with
  | nil => rfl
  | cons call calls ih =>
    obtain ⟨now, call⟩ := call
    obtain ⟨fs, there, config_eq, root_eq, refines⟩ := refines
    have later :
        Refines { provider with graph := { provider.graph with clock := now } } id _ _ model :=
      ⟨fs, there, config_eq, root_eq, refines.at_time now⟩
    obtain ⟨answer, refines⟩ := later.perform call
    simp only [Provider.performAll, List.map_cons, PathModel.answers]
    rw [answer, ih refines]

/-- Whatever one does with a file system that was just built, and whenever one does it, it answers
what path maps answer. -/
theorem refines_path_model (valid : config.validate = .ok ()) (key : String) (registered : Bool)
    (before : Provider) (calls : List (Int × Call)) :
    ∃ id provider first others,
      (construct key config registered before).outcome = (.ok id, provider) ∧
      config.resolvedRoots = .ok (first :: others) ∧
      (performAll id calls provider).map (Except.map Answer.untimed) =
        (PathModel.new config (first :: others)).answers config first (calls.map Prod.snd) := by
  obtain ⟨fs, graph, built⟩ := FileSystem.exists_build valid key registered before.graph
  obtain ⟨first, others, named, first_eq, -⟩ := FileSystem.knows_of_build built
  have config_eq : fs.config = config := by
    obtain ⟨_, _, -, rfl, -⟩ := FileSystem.build_eq_ok built
    rfl
  let provider : Provider := { before with graph, systems := before.systems.push fs }
  have there : provider.system? before.systems.size = some fs := by simp [system?, provider]
  refine ⟨before.systems.size, provider, first, others, ?_, named, ?_⟩
  · rw [construct, Action.outcome_bind, Action.outcome_onPart, built]
    rfl
  · have refines :
        provider.Refines before.systems.size config first (.new config (first :: others)) :=
      ⟨fs, there, config_eq, first_eq, FileSystem.refines_of_build built named⟩
    exact refines.performAll calls

/-- A file in the way, odd names, and a file system that is closed in between. -/
theorem refines_path_model_until_closed :
    let file : ElementPath := ⟨none, ["a"], '/', by simp⟩
    let below : ElementPath := ⟨some .slash, ["a", "", ".."], '/', by simp⟩
    let calls : List (Int × Call) :=
      [(1, .request (.createFile (.element file))),
        (2, .request (.createDirectory (.element file))),
        (3, .request (.createDirectory (.element below))),
        (4, .request (.readBasic (.element file))),
        (5, .close),
        (6, .request (.readBasic (.element file)))]
    Config.unix.validate = .ok () ∧ ∃ id provider,
      (construct "key" .unix false {}).outcome = (.ok id, provider) ∧
      (performAll id calls provider).map (Except.map Answer.untimed) =
        [.ok .done, .error (.alreadyExists "/a"), .error (.notADirectory "/a"),
          .ok (.basic ⟨.file, 0, .fresh 0⟩), .ok .done, .error .closed] := by
  intro file below calls
  have valid : Config.unix.validate = .ok () := rfl
  obtain ⟨id, provider, first, others, built, named, answers⟩ :=
    refines_path_model valid "key" false {} calls
  have roots : Config.unix.resolvedRoots = .ok [.slash] := rfl
  cases roots.symm.trans named
  exact ⟨valid, id, provider, built, answers.trans rfl⟩

end Provider

end CoupledFs
