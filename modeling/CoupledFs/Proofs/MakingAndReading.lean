import CoupledFs.Proofs.PathRefinement
import CoupledFs.Proofs.Provenance

/-! Making a node at a path and reading what is there. Asked of the same state, they agree: the one
succeeds just where the other finds nothing, and whatever else is in the way is in the way of both. -/

namespace CoupledFs

namespace Path

theorem displayUpTo_ne_display {path : Path} (some_name : 0 < length)
    (short : length < path.segments.length) : path.displayUpTo length ≠ path.display := by
  cases path with
  | root r => cases short
  | element e =>
    have short : length < e.segments.length := short
    have front : e.segments.take length ≠ [] := by
      simp [List.take_eq_nil_iff, e.segments_ne_nil, Nat.ne_of_gt some_name]
    have rest : e.segments.drop length ≠ [] := by
      simp [List.drop_eq_nil_iff, short]
    have joined : e.display = e.displayUpTo length ++ (String.singleton e.separator ++
        String.intercalate (String.singleton e.separator) (e.segments.drop length)) := by
      have parts := (List.take_append_drop length e.segments).symm
      rw [e.display_eq, parts, String.intercalate_append_of_ne_nil front rest, ← parts,
        ElementPath.displayUpTo]
      simp only [String.append_assoc]
    intro same
    have same : e.displayUpTo length = e.display := same
    have lengths := congrArg String.length (same.trans joined)
    rw [String.length_append, String.length_append, String.length_singleton] at lengths
    omega

theorem display_toAbsolute (path : Path) (root : Root) :
    (path.toAbsolute root).display =
      (if path.isAbsolute then "" else root.display) ++ path.display := by
  cases path with
  | root r => simp [toAbsolute, isAbsolute, root?]
  | element e =>
    obtain ⟨anchor, names, separator, nonempty⟩ := e
    cases anchor with
    | none =>
      simp [toAbsolute, isAbsolute, root?, display, ElementPath.display_eq, ElementPath.anchor]
    | some anchor => simp [toAbsolute, isAbsolute, root?]

/-- The complaint about a missing root is not the text of the path, if the root's own text is short. -/
theorem display_toAbsolute_ne {root : Root} (short : root.display.length ≤ 3) (path : Path) :
    (path.toAbsolute root).display ≠ "the root of " ++ path.display ++ " does not exist" := by
  intro same
  have lengths := congrArg String.length same
  rw [display_toAbsolute] at lengths
  simp only [String.length_append] at lengths
  have complaint : "the root of ".length + " does not exist".length = 27 := rfl
  split at lengths
  · simp only [String.length_empty] at lengths
    omega
  · omega

end Path

/-- The kind of node that a request makes and the path at which it makes it, if it makes any. -/
def Request.creates? : Request → Option (NodeKind × Path)
  | .createDirectory path => some (.directory, path)
  | .createFile path => some (.file, path)
  | .createSymbolicLink link _ => some (.symlink, link)
  | .readBasic _ | .readPosix _ | .checkAccess _ _ | .listChildren _ => none

/-- How the answers to making and to reading a node go together. What is vacant can be made, what is
taken can be read, and any other obstacle bars both. -/
inductive Accord (text : String) : Except FsError Answer → Except FsError Answer → Prop where
  | vacant : Accord text (.ok .done) (.error (.noSuchFile text))
  | taken (attributes : BasicAttributes) :
      Accord text (.error (.alreadyExists text)) (.ok (.basic attributes))
  | barred (error : FsError) (present : error ≠ .noSuchFile text)
      (absent : error ≠ .alreadyExists text) : Accord text (.error error) (.error error)

theorem Accord.responses {text : String} {creation reading : Except FsError Answer}
    (accord : Accord text creation reading) :
    (creation.map Response.answer = .ok (.answer .done) ↔
        reading.map Response.answer = .error (.noSuchFile text)) ∧
      (creation.map Response.answer = .error (.alreadyExists text) ↔
        ∃ attributes, reading.map Response.answer = .ok (.answer (.basic attributes))) ∧
      ∀ error, reading.map Response.answer = .error error → error ≠ .noSuchFile text →
        creation.map Response.answer = .error error := by
  cases accord with
  | vacant => simp [Except.map, eq_comm]
  | taken attributes => simp [Except.map]
  | barred error present absent => simp [Except.map, present, absent]

def Intent.path : Intent → Path
  | .make path _ | .look path _ => path

namespace FileSystem

variable {fs : FileSystem} {graph : Graph} {request : Request} {kind : NodeKind} {path : Path}

theorem intent_of_creates? (fs : FileSystem) (creates : request.creates? = some (kind, path)) :
    ∃ make, fs.intent request = .make path make ∧ ∀ now, (make now).kind = kind := by
  cases request with
  | createDirectory | createFile | createSymbolicLink =>
    cases creates
    exact ⟨_, rfl, fun _ => rfl⟩
  | readBasic | readPosix | checkAccess | listChildren => cases creates

def readAt (absolute : Path) (start : NodeId) : Traversal Answer :=
  ⟨.read, start, absolute, look absolute fun _ node => .ok (.basic node.basicAttributes)⟩

section Accord

variable {absolute parent : Path} {start : NodeId} {name : String}
  (named : absolute.lastSegment? = some name) (parented : absolute.parent? = some parent)

include named parented

/-- A walk that ends early on the way to the parent ends in the same place on the way to the node, with
the same complaint. -/
theorem accord_of_stop (make : Int → Node) (names : parent.segments = front ++ missing :: rest)
    (route : Route graph start front above node) (stop : graph.child? node missing = none) :
    Accord absolute.display ((makeAt parent absolute start name make).perform graph).outcome.1
      ((readAt absolute start).perform graph).outcome.1 := by
  have segments := Path.segments_of_parent parented named
  have length := congrArg List.length segments
  rw [names, List.append_assoc, List.cons_append] at segments
  have longer : front.length + 1 ≤ parent.segments.length := by simp [names]
  rw [Traversal.outcome_of_stop (makeAt parent absolute start name make) names route stop,
    Traversal.outcome_of_stop (readAt absolute start) segments route stop,
    stopError_of_parent parented (route.length_above ▸ longer), route.length_above,
    Traversal.stopError]
  cases directory : (graph.node node).isDirectory with
  | false => exact .barred _ (by simp) (by simp)
  | true =>
    refine .barred _ ?_ (by simp)
    intro same
    injection same with same
    rw [List.length_append, List.length_singleton] at length
    exact Path.displayUpTo_ne_display (Nat.succ_pos _) (by omega) same

/-- Once at the parent, a node can be made just where none is found. -/
theorem accord_of_route (make : Int → Node)
    (route : Route graph start parent.segments above target) :
    Accord absolute.display ((makeAt parent absolute start name make).perform graph).outcome.1
      ((readAt absolute start).perform graph).outcome.1 := by
  have segments := Path.segments_of_parent parented named
  cases linked : graph.child? target name with
  | some child =>
    have arrived := route.concat linked
    rw [← segments] at arrived
    rw [outcome_makeAt_of_taken absolute make route linked,
      Traversal.outcome_of_route (readAt absolute start) arrived]
    exact .taken _
  | none =>
    rw [Traversal.outcome_of_stop (readAt absolute start) segments route linked,
      Traversal.stopError, route.length_above]
    cases directory : (graph.node target).isDirectory with
    | false =>
      rw [outcome_makeAt_of_leaf absolute make route directory, Path.display_of_parent parented]
      exact .barred _ (by simp) (by simp)
    | true =>
      have whole : parent.segments.length + 1 = absolute.segments.length := by simp [segments]
      rw [outcome_makeAt_of_free absolute make route directory linked, whole]
      simp only [if_true, readAt, Path.displayUpTo_length]
      exact .vacant

theorem accord_of_makeAt (make : Int → Node) :
    Accord absolute.display ((makeAt parent absolute start name make).perform graph).outcome.1
      ((readAt absolute start).perform graph).outcome.1 := by
  rcases Route.exists_or_stop graph start parent.segments with
    ⟨above, target, route⟩ | ⟨front, missing, rest, above, node, names, route, stop⟩
  · exact accord_of_route named parented make route
  · exact accord_of_stop named parented make names route stop

end Accord

theorem plan_readBasic (opened : fs.isOpen = true)
    (resolved : fs.resolveRoot path = .ok (absolute, start)) :
    fs.plan (.readBasic path) = .ok (readAt absolute start) := by
  simp only [plan_of_open opened, intent, planIntent, planRead, resolved]
  rfl

theorem resolveRoot_eq_error (lost : fs.resolveRoot path = .error error) :
    error = .noSuchFile ("the root of " ++ path.display ++ " does not exist") := by
  simp only [resolveRoot] at lost
  split at lost
  · cases lost
  · cases lost
    rfl

theorem plan_of_lost (opened : fs.isOpen = true)
    (lost : fs.resolveRoot (fs.intent request).path = .error error) :
    fs.plan request = .error error := by
  rw [plan_of_open opened]
  cases about : fs.intent request with
  | make path make =>
    rw [about, Intent.path] at lost
    simp only [planIntent, planCreate, lost]
    rfl
  | look path view =>
    rw [about, Intent.path] at lost
    simp only [planIntent, planRead, lost]

/-- Requests to make a node agree with reading it, in any graph. -/
theorem accord_of_serve (opened : fs.isOpen = true) (writable : fs.store.readOnly = false)
    (short : fs.defaultRoot.display.length ≤ 3) (creates : request.creates? = some (kind, path))
    (named : (path.toAbsolute fs.defaultRoot).segments ≠ []) (graph : Graph) :
    Accord (path.toAbsolute fs.defaultRoot).display (fs.serve request graph).answer
      (fs.serve (.readBasic path) graph).answer := by
  obtain ⟨make, about, -⟩ := fs.intent_of_creates? creates
  change Accord _ (fs.serve request graph).outcome.1 (fs.serve (.readBasic path) graph).outcome.1
  rw [outcome_serve, outcome_serve]
  cases resolved : fs.resolveRoot path with
  | error error =>
    have refused : fs.plan request = .error error := plan_of_lost opened (by rwa [about])
    have refused' : fs.plan (.readBasic path) = .error error := plan_of_lost opened resolved
    rw [refused, refused', Plan.outcome_error]
    obtain rfl := resolveRoot_eq_error resolved
    refine .barred _ ?_ (by simp)
    intro same
    injection same with same
    exact Path.display_toAbsolute_ne short path same.symm
  | ok found =>
    obtain ⟨absolute, start⟩ := found
    obtain ⟨rfl, root, rooted, -⟩ := resolveRoot_eq_ok.mp resolved
    have segments := (List.dropLast_concat_getLast named).symm
    obtain ⟨name, parent, last, parented⟩ := Path.parent_of_segments rooted segments
    have planned : fs.plan request =
        .ok (makeAt parent (path.toAbsolute fs.defaultRoot) start name make) := by
      rw [plan_of_open opened, about]
      exact planIntent_make resolved writable last parented make
    rw [planned, plan_readBasic opened resolved, Plan.outcome_ok, Plan.outcome_ok]
    exact accord_of_makeAt last parented make

theorem readBasic_of_made (opened : fs.isOpen = true) (creates : request.creates? = some (kind, path))
    (made : (fs.serve request graph).answer = .ok answer) (later : Int) :
    ∃ attributes, (fs.serve (.readBasic path)
        { (fs.serve request graph).state with clock := later }).answer = .ok (.basic attributes) ∧
      attributes.kind = kind := by
  obtain ⟨make, about, kinds⟩ := fs.intent_of_creates? creates
  have effect := fs.effect_of_serve request graph
  obtain ⟨after, state⟩ : ∃ after, (fs.serve request graph).state = after := ⟨_, rfl⟩
  rw [made, state] at effect
  rw [state]
  cases effect with
  | nothing _ idle =>
    obtain ⟨_, _, looks⟩ := idle answer rfl
    cases about.symm.trans looks
  | @growth _ absolute parent _ root start target name passed about' absolute_eq rooted anchor segments
      route directory free =>
    cases about.symm.trans about'
    have childless := childless_of_intent about graph.clock
    let after : Graph := { graph.addUnder target name make with clock := later }
    have grown : graph.Extends after := Graph.extends_addUnder directory free childless
    have linked : after.child? target name = some graph.size := by
      have links := Graph.child?_addUnder directory free childless target name
      rwa [if_pos ⟨rfl, rfl⟩] at links
    have arrived := (route.mono grown).concat linked
    rw [← segments] at arrived
    have resolved := resolveRoot_eq_ok.mpr ⟨absolute_eq, root, rooted, anchor⟩
    have node : after.node graph.size = make graph.clock := by
      have nodes := Graph.node_addUnder directory name make graph.size
      rwa [if_pos rfl] at nodes
    refine ⟨(after.node graph.size).basicAttributes, ?_, ?_⟩
    · change (fs.serve (.readBasic path) after).outcome.1 = _
      rw [outcome_serve, plan_readBasic opened resolved, Plan.outcome_ok,
        Traversal.outcome_of_route (readAt absolute start) arrived]
      rfl
    · rw [node]
      exact kinds graph.clock

end FileSystem

namespace Provider

/-- What a file system was asked to make, it shows when it is asked next, at whatever time. -/
theorem readBasic_of_operate {provider : Provider} {id : SystemId} {fs : FileSystem}
    {request : Request} {kind : NodeKind} {path : Path} {response : Response}
    (there : provider.system? id = some fs) (opened : fs.isOpen = true)
    (creates : request.creates? = some (kind, path))
    (made : (operate id (.request request) provider).answer = .ok response) (later : Int) :
    ∃ attributes, (operate id (.request (.readBasic path))
        ((operate id (.request request) provider).state.atTime later)).answer =
          .ok (.answer (.basic attributes)) ∧ attributes.kind = kind := by
  obtain ⟨answered, state⟩ := Prod.mk.inj (outcome_operate_request there request)
  have served : ∃ answer, (fs.serve request provider.graph).answer = .ok answer := by
    have made := answered.symm.trans made
    cases served : (fs.serve request provider.graph).answer with
    | ok answer => exact ⟨answer, rfl⟩
    | error error =>
      rw [served] at made
      cases made
  obtain ⟨answer, served⟩ := served
  obtain ⟨attributes, read, same⟩ := FileSystem.readBasic_of_made opened creates served later
  have there' : ((operate id (.request request) provider).state.atTime later).system? id = some fs := by
    rw [state]
    exact there
  obtain ⟨shown, -⟩ := Prod.mk.inj (outcome_operate_request there' (.readBasic path))
  refine ⟨attributes, shown.trans ?_, same⟩
  rw [state]
  exact congrArg (Except.map Response.answer) read

/-- However a file system came to be what it is, making a node at a path and reading the path agree, as
long as it is open and not read-only: the node can be made just where reading finds nothing at that very
path, it exists already just where reading succeeds, and any other obstacle is in the way of both. Once
it is made, it can be read, and is what it was made as. -/
theorem making_agrees_with_reading {steps : List (Int × Command)} {now : Int} {id : SystemId}
    {fs : FileSystem} {request : Request} {kind : NodeKind} {path : Path}
    (there : ((({} : Provider).afterAll steps).atTime now).system? id = some fs)
    (opened : fs.isOpen = true) (writable : fs.store.readOnly = false)
    (creates : request.creates? = some (kind, path))
    (named : (path.toAbsolute fs.defaultRoot).segments ≠ []) :
    let provider := (({} : Provider).afterAll steps).atTime now
    let text := (path.toAbsolute fs.defaultRoot).display
    let made := operate id (.request request) provider
    let found := operate id (.request (.readBasic path)) provider
    (made.answer = .ok (.answer .done) ↔ found.answer = .error (.noSuchFile text)) ∧
      (made.answer = .error (.alreadyExists text) ↔
        ∃ attributes, found.answer = .ok (.answer (.basic attributes))) ∧
      (∀ error, found.answer = .error error → error ≠ .noSuchFile text →
        made.answer = .error error) ∧
      (made.answer = .ok (.answer .done) → ∀ later, ∃ attributes,
        (operate id (.request (.readBasic path)) (made.state.atTime later)).answer =
            .ok (.answer (.basic attributes)) ∧
          attributes.kind = kind) := by
  intro provider text made found
  have owned := (allGenuine_afterAll steps there).hasRoot_defaultRoot
  have short := PathStyle.length_display_of_hasRoot owned
  obtain ⟨made_eq, -⟩ := Prod.mk.inj (outcome_operate_request there request)
  obtain ⟨found_eq, -⟩ := Prod.mk.inj (outcome_operate_request there (.readBasic path))
  have accord := FileSystem.accord_of_serve opened writable short creates named provider.graph
  obtain ⟨creation, exists_already, obstacle⟩ := accord.responses
  rw [← made_eq, ← found_eq] at creation
  rw [← made_eq, ← found_eq] at exists_already
  rw [← made_eq, ← found_eq] at obstacle
  refine ⟨creation, exists_already, obstacle, ?_⟩
  intro done later
  exact readBasic_of_operate there opened creates done later

/-- In a new file system, a link can be made where nothing is found, and is found afterwards. -/
theorem making_agrees_with_reading_of_link :
    let path : Path := .element ⟨none, ["a"], '/', by simp⟩
    let request : Request := .createSymbolicLink path path
    let provider := (({} : Provider).afterAll [(1, .newFileSystem "key" .unix)]).atTime 2
    let made := operate 0 (.request request) provider
    let found := operate 0 (.request (.readBasic path)) provider
    (∃ fs, provider.system? 0 = some fs ∧ fs.isOpen = true ∧ fs.store.readOnly = false ∧
        (path.toAbsolute fs.defaultRoot).segments ≠ [] ∧
        (path.toAbsolute fs.defaultRoot).display = "/a") ∧
      request.creates? = some (.symlink, path) ∧ made.answer = .ok (.answer .done) ∧
      found.answer = .error (.noSuchFile "/a") ∧
      ∃ attributes, (operate 0 (.request (.readBasic path)) (made.state.atTime 3)).answer =
        .ok (.answer (.basic attributes)) ∧ attributes.kind = .symlink := by
  intro path request provider made found
  let fs : FileSystem :=
    ⟨.unix, ⟨"memfs", "key", false⟩, {}, ⟨[(.slash, 0)]⟩, .slash, ⟨["root"], ["root"]⟩, true⟩
  let graph : Graph := ⟨#[.newDirectory 1 0o755 (some ⟨"root", "root"⟩)], 2⟩
  have there : provider.system? 0 = some fs := rfl
  have named : (path.toAbsolute fs.defaultRoot).segments ≠ [] := List.cons_ne_nil "a" []
  have served : (fs.serve request graph).outcome = (.ok .done,
      graph.addUnder 0 "a" (.newSymlink · "a" (some ⟨"root", "root"⟩))) :=
    FileSystem.outcome_serve_of_free rfl rfl rfl rfl rfl rfl (.here 0) rfl rfl
  have success : made.answer = .ok (.answer .done) :=
    (congrArg Prod.fst (outcome_operate_request there request)).trans
      (congrArg (Except.map Response.answer) (congrArg Prod.fst served))
  have creates : request.creates? = some (.symlink, path) := rfl
  have shown : (path.toAbsolute fs.defaultRoot).display = "/a" := by decide
  obtain ⟨creation, -, -, lasting⟩ := making_agrees_with_reading there rfl rfl creates named
  rw [shown] at creation
  exact ⟨⟨fs, there, rfl, rfl, named, shown⟩, creates, success, creation.mp success,
    lasting success 3⟩

end Provider

end CoupledFs
