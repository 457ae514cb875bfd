import CoupledFs.Proofs.Building
import CoupledFs.Proofs.Request

/-! What requests keep up: the tree of a file system stays a tree, and nodes stay what they were made
as. -/

namespace CoupledFs

namespace Path

theorem segments_of_parent {path parent : Path} (above : path.parent? = some parent)
    (named : path.lastSegment? = some name) : path.segments = parent.segments ++ [name] := by
  cases path with
  | root r => cases above
  | element e =>
    obtain ⟨root, names, separator, nonempty⟩ := e
    cases named
    have rejoined := (List.dropLast_concat_getLast nonempty).symm
    unfold parent? ofParts at above
    cases front : names.dropLast with
    | nil =>
      simp only [front, Option.map_eq_some_iff] at above
      obtain ⟨_, -, rfl⟩ := above
      rw [front] at rejoined
      exact rejoined
    | cons first rest =>
      simp only [front, Option.some.injEq] at above
      subst above
      rw [front] at rejoined
      exact rejoined

theorem parent_of_segments {path : Path} {anchor : Root} (rooted : path.root? = some anchor)
    (segments : path.segments = front ++ [name]) :
    ∃ last parent, path.lastSegment? = some last ∧ path.parent? = some parent := by
  cases path with
  | root r => simp [Path.segments] at segments
  | element e =>
    obtain ⟨root', names, separator, nonempty⟩ := e
    cases rooted
    have some_parent : (ofParts (some anchor) names.dropLast separator).isSome = true := by
      unfold ofParts
      cases names.dropLast <;> rfl
    obtain ⟨parent, above⟩ := Option.isSome_iff_exists.mp some_parent
    exact ⟨_, parent, rfl, above⟩

/-- Texts of a path cut off above its last name are texts of its parent. -/
theorem displayUpTo_of_parent {path parent : Path} (above : path.parent? = some parent)
    (short : length ≤ parent.segments.length) :
    parent.displayUpTo length = path.displayUpTo length := by
  cases path with
  | root r => cases above
  | element e =>
    obtain ⟨root, names, separator, nonempty⟩ := e
    unfold parent? ofParts at above
    cases front : names.dropLast with
    | nil =>
      simp only [front, Option.map_eq_some_iff] at above
      obtain ⟨r, same, rfl⟩ := above
      cases Nat.le_zero.mp short
      simp [displayUpTo, ElementPath.displayUpTo, ElementPath.anchor, same]
    | cons first rest =>
      simp only [front, Option.some.injEq] at above
      subst above
      have kept : names.take length = (first :: rest).take length := by
        rw [← List.dropLast_concat_getLast nonempty, front]
        exact List.take_append_of_le_length short
      simp [displayUpTo, ElementPath.displayUpTo, ElementPath.anchor, kept]

end Path

namespace Node

/-- The node as it was made: without children and without times. -/
def bare (node : Node) : Node where
  content := match node.content with
    | .directory _ => .directory []
    | .file bytes => .file bytes
    | .symlink target => .symlink target
  times := .fresh 0
  mode := node.mode
  ownership := node.ownership

@[simp]
theorem bare_link (node : Node) (now : Int) (name : String) (child : NodeId) :
    (node.link now name child).bare = node.bare := by
  unfold link bare
  cases content : node.content <;> simp [content]

theorem isDirectory_of_bare {node other : Node} (same : node.bare = other.bare) :
    node.isDirectory = other.isDirectory := by
  have content := congrArg Node.content same
  unfold bare at content
  unfold isDirectory kind
  cases first : node.content <;> cases second : other.content <;> simp [first, second] at content ⊢

end Node

namespace Graph

/-- Every node that was there is still what it was made as. -/
def Keeps (before after : Graph) : Prop :=
  ∀ node, node < before.size → node < after.size ∧ (after.node node).bare = (before.node node).bare

theorem Keeps.refl (graph : Graph) : graph.Keeps graph :=
  fun _ inside => ⟨inside, rfl⟩

theorem keeps_addUnder {graph : Graph} (directory : (graph.node parent).isDirectory = true)
    (name : String) (make : Int → Node) : graph.Keeps (graph.addUnder parent name make) := by
  intro node inside
  refine ⟨by simpa using Nat.lt_succ_of_lt inside, ?_⟩
  rw [node_addUnder directory, if_neg (Nat.ne_of_lt inside)]
  split
  · rename_i same
    rw [Node.bare_link, same]
  · rfl

end Graph

namespace FileSystem

variable {fs : FileSystem} {graph : Graph}

theorem resolveRoot_eq_ok {path : Path} :
    fs.resolveRoot path = .ok (absolute, start) ↔
      absolute = path.toAbsolute fs.defaultRoot ∧
        ∃ root, absolute.root? = some root ∧ fs.roots.get? root = some start := by
  simp only [resolveRoot]
  split
  · rename_i directory found
    obtain ⟨root, named, anchor⟩ := Option.bind_eq_some_iff.mp found
    simp only [Except.ok.injEq, Prod.mk.injEq]
    constructor
    · rintro ⟨rfl, rfl⟩
      exact ⟨rfl, root, named, anchor⟩
    · rintro ⟨rfl, root', named', anchor'⟩
      cases named.symm.trans named'
      exact ⟨rfl, Option.some.inj (anchor.symm.trans anchor')⟩
  · rename_i unknown
    simp only [reduceCtorEq, false_iff]
    rintro ⟨rfl, root, named, anchor⟩
    rw [named] at unknown
    cases unknown.symm.trans anchor

def find? (fs : FileSystem) (graph : Graph) (path : Path) : Option NodeId :=
  match fs.resolveRoot path with
  | .ok (absolute, start) => graph.resolve start absolute.segments
  | .error _ => none

theorem find?_of_extends {path : Path} (found : fs.find? graph path = some node)
    (grown : graph.Extends after) : fs.find? after path = some node := by
  unfold find? at found ⊢
  split at found
  · obtain ⟨above, route⟩ := Route.of_resolve found
    exact (route.mono grown).resolve
  · cases found

section Looking

variable {request : Request} {path : Path} {view : Path → Node → Except FsError Answer}
  (opened : fs.isOpen = true)

include opened

theorem outcome_serve_of_found (about : fs.intent request = .look path view)
    (found : fs.find? graph path = some node) : (fs.serve request graph).outcome =
      (view (path.toAbsolute fs.defaultRoot) (graph.node node), graph) := by
  rw [outcome_serve, plan_of_open opened, about, planIntent, planRead]
  unfold find? at found
  cases resolved : fs.resolveRoot path with
  | error error =>
    rw [resolved] at found
    cases found
  | ok target =>
    obtain ⟨absolute, start⟩ := target
    rw [resolved] at found
    obtain ⟨rfl, -⟩ := resolveRoot_eq_ok.mp resolved
    obtain ⟨above, route⟩ := Route.of_resolve found
    exact (Plan.outcome_ok _ graph).trans (Traversal.outcome_of_route _ route)

/-- Where there is none, all requests to look there fail alike, whatever they want to see. -/
theorem exists_error_of_lost (lost : fs.find? graph path = none) : ∃ error, ∀ request view,
    fs.intent request = .look path view → (fs.serve request graph).outcome = (.error error, graph) := by
  have planned {request : Request} {view : Path → Node → Except FsError Answer}
      (about : fs.intent request = .look path view) : (fs.serve request graph).outcome =
        ((fs.planRead path view).perform graph).outcome := by
    rw [outcome_serve, plan_of_open opened, about, planIntent]
  unfold find? at lost
  cases resolved : fs.resolveRoot path with
  | error error =>
    refine ⟨error, fun request view about => ?_⟩
    rw [planned about, planRead, resolved]
    exact Plan.outcome_error error graph
  | ok target =>
    obtain ⟨absolute, start⟩ := target
    rw [resolved] at lost
    rcases Route.exists_or_stop graph start absolute.segments with
      ⟨above, node, route⟩ | ⟨front, name, rest, above, node, names, route, stop⟩
    · cases lost.symm.trans route.resolve
    · refine ⟨if (graph.node node).isDirectory then
          .noSuchFile (absolute.displayUpTo (above.length + 1))
        else .notADirectory (absolute.displayUpTo above.length), fun request view about => ?_⟩
      rw [planned about, planRead, resolved]
      exact (Plan.outcome_ok _ graph).trans (Traversal.outcome_of_stop _ names route stop)

end Looking

/-- What serving a request of a file system does to the graph. Only a request to make a node changes
it, and only where there is a directory without the name. -/
inductive Effect (fs : FileSystem) (request : Request) (graph : Graph) :
    Except FsError Answer → Graph → Prop where
  | nothing (answer : Except FsError Answer)
      (idle : ∀ value, answer = .ok value → ∃ path view, fs.intent request = .look path view) :
      Effect fs request graph answer graph
  | growth {path absolute parent : Path} {make : Int → Node} {root : Root} {start target : NodeId}
      {name : String} {passed : List NodeId} (about : fs.intent request = .make path make)
      (absolute_eq : absolute = path.toAbsolute fs.defaultRoot) (rooted : absolute.root? = some root)
      (anchor : fs.roots.get? root = some start)
      (segments : absolute.segments = parent.segments ++ [name])
      (route : Route graph start parent.segments passed target)
      (directory : (graph.node target).isDirectory = true)
      (free : graph.child? target name = none) :
      Effect fs request graph (.ok .done) (graph.addUnder target name make)

theorem effect_of_perform (planned : fs.plan request = .ok t) (graph : Graph) :
    fs.Effect request graph (t.perform graph).outcome.1 (t.perform graph).outcome.2 := by
  rcases Route.exists_or_stop graph t.start t.path.segments with
    ⟨passed, target, route⟩ | ⟨front, missing, rest, passed, node, names, route, stop⟩
  · cases about : fs.intent request with
    | make path make =>
      obtain ⟨absolute, start, name, parent, found, -, named, parented, rfl⟩ :=
        plan_make_eq_ok about planned
      obtain ⟨absolute_eq, root, rooted, anchor⟩ := resolveRoot_eq_ok.mp found
      have route : Route graph start parent.segments passed target := route
      cases directory : (graph.node target).isDirectory with
      | false =>
        rw [outcome_makeAt_of_leaf absolute make route directory]
        exact .nothing _ (by simp)
      | true =>
        cases taken : graph.child? target name with
        | some child =>
          rw [outcome_makeAt_of_taken absolute make route taken]
          exact .nothing _ (by simp)
        | none =>
          rw [outcome_makeAt_of_free absolute make route directory taken]
          exact .growth about absolute_eq rooted anchor (Path.segments_of_parent parented named) route
            directory taken
    | look path view =>
      obtain ⟨absolute, start, -, rfl⟩ := plan_look_eq_ok about planned
      rw [Traversal.outcome_of_route _ route]
      exact .nothing _ fun _ _ => ⟨path, view, about⟩
  · rw [t.outcome_of_stop names route stop]
    exact .nothing _ (by simp)

theorem effect_of_serve (fs : FileSystem) (request : Request) (graph : Graph) :
    fs.Effect request graph (fs.serve request graph).answer (fs.serve request graph).state := by
  change fs.Effect request graph (fs.serve request graph).outcome.1 (fs.serve request graph).outcome.2
  rw [outcome_serve]
  cases planned : fs.plan request with
  | error error =>
    rw [Plan.outcome_error]
    exact .nothing _ (by simp)
  | ok t =>
    rw [Plan.outcome_ok]
    exact effect_of_perform planned graph

theorem Effect.rooted (effect : fs.Effect request graph answer after) (valid : fs.Rooted graph) :
    fs.Rooted after := by
  cases effect with
  | nothing => exact valid
  | growth about _ _ anchor _ route directory free =>
    exact valid.addUnder (Option.bind_eq_some_iff.mpr ⟨_, anchor, route.resolve⟩) directory free
      (childless_of_intent about graph.clock)

theorem Effect.keeps (effect : fs.Effect request graph answer after) : graph.Keeps after := by
  cases effect with
  | nothing => exact .refl graph
  | growth _ _ _ _ _ _ directory _ => exact Graph.keeps_addUnder directory _ _

/-- A graph in which a file system was built and has served requests since, with any time between
them. -/
inductive Made (fs : FileSystem) : Graph → Prop where
  | build {key : String} {config : Config} {registered : Bool} {before after : Graph}
      (built : (build key config registered before).outcome = (.ok fs, after)) : Made fs after
  | serve {graph : Graph} (made : Made fs graph) (now : Int) (request : Request) :
    Made fs (fs.serve request { graph with clock := now }).state

theorem Made.isOpen (made : fs.Made graph) : fs.lifecycle.isOpen = true := by
  induction made with
  | build built =>
    obtain ⟨_, _, -, rfl, -⟩ := build_eq_ok built
    rfl
  | serve _ _ _ ih => exact ih

theorem Made.rooted (made : fs.Made graph) : fs.Rooted graph := by
  induction made with
  | build built => exact rooted_of_build built
  | serve _ now request ih => exact (fs.effect_of_serve request _).rooted (ih.at_time now)

end FileSystem

end CoupledFs
