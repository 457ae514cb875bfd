import CoupledFs.Proofs.Forest
import CoupledFs.Proofs.Operation

/-! What operations leave alone. One that fails leaves everything as it was, and one that makes a node
changes one directory and nothing else. -/

namespace CoupledFs

namespace Path

theorem lastSegment?_of_segments {path : Path} (segments : path.segments = front ++ [name]) :
    path.lastSegment? = some name := by
  cases path with
  | root r => simp [Path.segments] at segments
  | element e =>
    obtain ⟨root, names, separator, nonempty⟩ := e
    cases segments
    simp [lastSegment?, ElementPath.lastSegment]

theorem parent?_of_segments {path : Path} {anchor : Root} (rooted : path.root? = some anchor)
    (segments : path.segments = front ++ [name]) :
    ∃ above, path.parent? = some above ∧ above.root? = some anchor ∧ above.segments = front := by
  obtain ⟨last, above, named, parented⟩ := parent_of_segments rooted segments
  have joined := segments_of_parent parented named
  refine ⟨above, parented, ?_, (List.append_inj' (joined.symm.trans segments) rfl).1⟩
  cases path with
  | root r => cases parented
  | element e =>
    unfold parent? ofParts at parented
    cases names : e.segments.dropLast with
    | nil =>
      simp only [names, Option.map_eq_some_iff] at parented
      obtain ⟨root, given, rfl⟩ := parented
      exact given.symm.trans rooted
    | cons first rest =>
      simp only [names, Option.some.injEq] at parented
      subst parented
      exact rooted

end Path

namespace FileSystem

variable {fs : FileSystem} {before after : Graph}

/-- What making a node at a path does: there is one node more, under one more name in one directory,
and nothing else is other than it was. -/
structure Plants (fs : FileSystem) (path : Path) (made : Node) (before after : Graph)
    (directory : NodeId) (name : String) : Prop where
  /-- The new name is the last one of the path. -/
  named : path.lastSegment? = some name
  /-- It is in the directory to which the parent of the path leads. -/
  place : ∃ above, (path.toAbsolute fs.defaultRoot).parent? = some above ∧
    fs.find? before above = some directory
  taker : (before.node directory).isDirectory = true
  free : before.child? directory name = none
  /-- It links the one new node, and there are no other new links. -/
  links : ∀ id other, after.child? id other =
    if id = directory ∧ other = name then some before.size else before.child? id other
  size : after.size = before.size + 1
  made : after.node before.size = made
  /-- The directory has a child more, and its times tell of a change. -/
  grown : after.node directory =
    { before.node directory with
      content := .directory ((before.node directory).children ++ [(name, before.size)])
      times := (before.node directory).times.touch before.clock }
  others : ∀ id, id < before.size → id ≠ directory → after.node id = before.node id
  /-- Paths lead where they led, and the new path leads to the new node. -/
  kept : ∀ other node, fs.find? before other = some node → fs.find? after other = some node
  vacant : fs.find? before path = none
  found : ∀ other node, fs.find? before other = none →
    (fs.find? after other = some node ↔
      node = before.size ∧ fs.anchor other = fs.anchor path ∧ other.segments = path.segments)

section Planting

variable {path : Path} {make : Int → Node} {target : NodeId} {front : List String} {name : String}
  (names : path.segments = front ++ [name])
  (place : fs.nodeAt? before (fs.anchor path) front = some target)

include names place

theorem find?_parent : ∃ above, (path.toAbsolute fs.defaultRoot).parent? = some above ∧
    fs.find? before above = some target := by
  have segments : (path.toAbsolute fs.defaultRoot).segments = front ++ [name] := by simpa
  obtain ⟨above, parented, rooted, front_eq⟩ :=
    Path.parent?_of_segments (path.root?_toAbsolute fs.defaultRoot) segments
  refine ⟨above, parented, ?_⟩
  have same_root : fs.anchor above = fs.anchor path := by
    rw [FileSystem.anchor, rooted]
    rfl
  rw [find?_eq_nodeAt?, same_root, front_eq, place]

theorem find?_of_free (free : before.child? target name = none) : fs.find? before path = none := by
  rw [find?_eq_nodeAt?, names, nodeAt?_concat, place]
  exact free

variable (forest : fs.Forest before) (directory : (before.node target).isDirectory = true)
  (free : before.child? target name = none) (childless : (make before.clock).children = [])

include forest directory free childless

theorem find?_addUnder (other : Path) : fs.find? (before.addUnder target name make) other =
    if fs.anchor other = fs.anchor path ∧ other.segments = path.segments then some before.size
    else fs.find? before other := by
  rw [find?_eq_nodeAt?, find?_eq_nodeAt?, names]
  exact nodeAt?_addUnder forest.rooted place directory free childless _ _

theorem plants_addUnder : fs.Plants path (make before.clock) before
    (before.addUnder target name make) target name := by
  have inside := Graph.lt_size_of_isDirectory directory
  have vacant := find?_of_free names place free
  have leads := find?_addUnder names place forest directory free childless
  constructor
  case named => exact Path.lastSegment?_of_segments names
  case place => exact find?_parent names place
  case taker => exact directory
  case free => exact free
  case links => exact Graph.child?_addUnder directory free childless
  case size => exact Graph.size_addUnder before target name make
  case made => rw [Graph.node_addUnder directory, if_pos rfl]
  case grown =>
    obtain ⟨children, content⟩ := Node.isDirectory_iff.mp directory
    rw [Graph.node_addUnder directory, if_neg (Nat.ne_of_lt inside), if_pos rfl]
    simp only [Node.link, Node.children, content]
  case others =>
    intro id old apart
    rw [Graph.node_addUnder directory, if_neg (Nat.ne_of_lt old), if_neg apart]
  case kept =>
    intro other node led
    rw [leads, if_neg, led]
    rintro ⟨same_root, same_names⟩
    rw [find?_eq_nodeAt?, same_root, same_names, ← find?_eq_nodeAt?, vacant] at led
    cases led
  case vacant => exact vacant
  case found =>
    intro other node nowhere
    rw [leads]
    split
    · rename_i here
      simp [here, eq_comm]
    · rename_i elsewhere
      simp [elsewhere, nowhere]

end Planting

theorem Effect.eq_of_error (effect : fs.Effect request before (.error error) after) :
    after = before := by
  cases effect with
  | nothing => rfl

/-- A request that makes a node makes one, in one place. -/
theorem Effect.plants (effect : fs.Effect request before (.ok answer) after)
    (forest : fs.Forest before) (made : fs.intent request = .make path make) :
    ∃ directory name, fs.Plants path (make before.clock) before after directory name := by
  cases effect with
  | nothing _ idle =>
    obtain ⟨path', view, looks⟩ := idle answer rfl
    cases made.symm.trans looks
  | growth about absolute_eq rooted anchor segments route directory free =>
    cases made.symm.trans about
    subst absolute_eq
    have names := (path.segments_toAbsolute fs.defaultRoot).symm.trans segments
    have same_root := Option.some.inj ((path.root?_toAbsolute fs.defaultRoot).symm.trans rooted)
    have place := nodeAt?_of_route anchor route
    rw [← same_root] at place
    exact ⟨_, _, plants_addUnder names place forest directory free
      (childless_of_intent about before.clock)⟩

end FileSystem

namespace Provider

variable {provider : Provider} {id : SystemId} {fs : FileSystem}

theorem state_of_operate_error {operation : Operation}
    (failed : (operate id operation provider).answer = .error error) :
    (operate id operation provider).state = provider := by
  cases operation with
  | request call =>
    cases there : provider.system? id with
    | none => exact congrArg Prod.snd (outcome_map_request_of_none there (·.serve call) Response.answer)
    | some fs =>
      obtain ⟨answer, state⟩ := Prod.mk.inj (outcome_operate_request there call)
      rw [answer] at failed
      cases served : (fs.serve call provider.graph).answer with
      | ok value =>
        rw [served] at failed
        cases failed
      | error error' =>
        have effect := fs.effect_of_serve call provider.graph
        rw [served] at effect
        rw [state, effect.eq_of_error]
  | inquire inquiry =>
    cases there : provider.system? id with
    | none =>
      exact congrArg Prod.snd (outcome_map_request_of_none there (·.inquire inquiry) Response.finding)
    | some fs => exact congrArg Prod.snd (outcome_operate_inquire there inquiry)
  | setRoots table => cases failed
  | close =>
    have closed : (operate id .close provider).answer = .ok .done :=
      congrArg Prod.fst (outcome_operate_close id provider)
    cases failed.symm.trans closed

/-- Operations do all of what they are asked or nothing: one that fails leaves nodes, roots, openness
and registry as they were, and one that makes a node changes one directory and nothing else. -/
theorem operate_all_or_nothing (provider : Provider) (id : SystemId) (operation : Operation) :
    (∀ error, (operate id operation provider).answer = .error error →
        (operate id operation provider).state = provider) ∧
      ∀ fs request path make response, provider.system? id = some fs →
        fs.Forest provider.graph → operation = .request request →
        fs.intent request = .make path make →
        (operate id operation provider).answer = .ok response →
        ∃ after directory name,
          (operate id operation provider).state = { provider with graph := after } ∧
          fs.Plants path (make provider.graph.clock) provider.graph after directory name := by
  refine ⟨fun error failed => state_of_operate_error failed, ?_⟩
  rintro fs request path make response there forest rfl about succeeded
  obtain ⟨answer, state⟩ := Prod.mk.inj (outcome_operate_request there request)
  rw [answer] at succeeded
  cases served : (fs.serve request provider.graph).answer with
  | error error =>
    rw [served] at succeeded
    cases succeeded
  | ok value =>
    have effect := fs.effect_of_serve request provider.graph
    rw [served] at effect
    obtain ⟨directory, name, plants⟩ := effect.plants forest about
    exact ⟨_, directory, name, state, plants⟩

/-- A file is made in the one directory of a file system, and another is refused where that directory
is. -/
theorem operate_all_or_nothing_in_directory :
    let owner : Option Ownership := some ⟨"root", "root"⟩
    let fs : FileSystem :=
      ⟨.unix, ⟨"memfs", "key", false⟩, {}, ⟨[(.slash, 0)]⟩, .slash, ⟨["root"], ["root"]⟩, true⟩
    let graph := Graph.addUnder ⟨#[.newDirectory 0 0o755 owner], 0⟩ 0 "a" (.newDirectory · 0o755 owner)
    let provider : Provider := ⟨graph, #[fs], [("key", 0)], true⟩
    let taken : Path := .element ⟨some .slash, ["a"], '/', by simp⟩
    let path : Path := .element ⟨none, ["a", "b"], '/', by simp⟩
    let refused := operate 0 (.request (.createFile taken)) provider
    let made := operate 0 (.request (.createFile path)) provider
    provider.system? 0 = some fs ∧ fs.Forest graph ∧
      refused.answer = .error (.alreadyExists "/a") ∧ refused.state = provider ∧
      made.answer = .ok (.answer .done) ∧ ∃ after directory name,
        made.state = { provider with graph := after } ∧
        fs.Plants path (.newFile 0 0o644 owner) graph after directory name := by
  intro owner fs graph provider taken path refused made
  have there : provider.system? 0 = some fs := rfl
  have built : (FileSystem.build "key" .unix true {}).outcome =
      (.ok fs, ⟨#[.newDirectory 0 0o755 owner], 0⟩) := rfl
  have planted := FileSystem.planted_of_build built Graph.treelike_empty
  have arboreal := FileSystem.arboreal_of_build built Graph.arboreal_empty
  have forest : fs.Forest graph :=
    (planted.addUnder rfl rfl rfl).forest (arboreal.addUnder rfl rfl rfl)
  have planned : fs.plan (.createFile taken) =
      .ok (FileSystem.makeAt (.root .slash) taken 0 "a" (.newFile · 0o644 owner)) := rfl
  have late : (fs.serve (.createFile taken) graph).outcome = (.error (.alreadyExists "/a"), graph) := by
    rw [FileSystem.outcome_serve, planned, Plan.outcome_ok]
    have linked : graph.child? 0 "a" = some 1 := rfl
    exact FileSystem.outcome_makeAt_of_taken taken _ (.here 0) linked
  have served : (fs.serve (.createFile path) graph).outcome =
      (.ok .done, graph.addUnder 1 "b" (.newFile · 0o644 owner)) :=
    FileSystem.outcome_serve_of_free rfl rfl rfl rfl rfl rfl (.down rfl (.here 1)) rfl rfl
  have refusal : refused.answer = .error (.alreadyExists "/a") :=
    (congrArg Prod.fst (outcome_operate_request there (.createFile taken))).trans
      (congrArg (Except.map Response.answer) (congrArg Prod.fst late))
  have success : made.answer = .ok (.answer .done) :=
    (congrArg Prod.fst (outcome_operate_request there (.createFile path))).trans
      (congrArg (Except.map Response.answer) (congrArg Prod.fst served))
  obtain ⟨unchanged, -⟩ := operate_all_or_nothing provider 0 (.request (.createFile taken))
  obtain ⟨-, plants⟩ := operate_all_or_nothing provider 0 (.request (.createFile path))
  exact ⟨there, forest, refusal, unchanged _ refusal, success,
    plants fs (.createFile path) path _ _ there forest rfl rfl success⟩

end Provider

end CoupledFs
