import CoupledFs.Proofs.Request

/-! What requests come to when times of day are left out of account: it depends on the graph with
its times left out. -/

namespace CoupledFs

namespace Node

def untimed (node : Node) : Node := { node with times := .fresh 0 }

@[simp]
theorem isDirectory_untimed (node : Node) : node.untimed.isDirectory = node.isDirectory := rfl

@[simp]
theorem child?_untimed (node : Node) (name : String) :
    node.untimed.child? name = node.child? name := rfl

theorem untimed_link (node : Node) (now : Int) (name : String) (child : NodeId) :
    (node.link now name child).untimed = (node.untimed.link 0 name child).untimed := by
  unfold link
  cases content : node.content <;> simp [untimed, content]

end Node

def Answer.untimed : Answer → Answer
  | .basic attributes => .basic { attributes with times := .fresh 0 }
  | .posix attributes =>
    .posix { attributes with basic := { attributes.basic with times := .fresh 0 } }
  | .done => .done
  | .names shown => .names shown

namespace Graph

def untimed (graph : Graph) : Graph := ⟨graph.nodes.map Node.untimed, 0⟩

@[simp]
theorem size_untimed (graph : Graph) : graph.untimed.size = graph.size := by
  simp [untimed, size]

@[simp]
theorem node_untimed (graph : Graph) (id : NodeId) :
    graph.untimed.node id = (graph.node id).untimed := by
  simp only [untimed, node, Array.getElem?_map]
  cases graph.nodes[id]? <;> rfl

theorem untimed_eq_iff {graph other : Graph} : graph.untimed = other.untimed ↔
    graph.size = other.size ∧ ∀ id, (graph.node id).untimed = (other.node id).untimed := by
  constructor
  · intro same
    refine ⟨?_, fun id => ?_⟩
    · rw [← size_untimed, same, size_untimed]
    · rw [← node_untimed, same, node_untimed]
  · rintro ⟨size, nodes⟩
    simp only [untimed, Graph.mk.injEq, and_true]
    apply Array.ext
    · rw [Array.size_map, Array.size_map]
      exact size
    · intro id inside inside'
      have same := nodes id
      simp only [Array.size_map] at inside inside'
      simpa [node, inside, inside'] using same

@[simp]
theorem untimed_at_time (graph : Graph) (now : Int) :
    ({ graph with clock := now } : Graph).untimed = graph.untimed :=
  rfl

theorem child?_of_untimed {graph other : Graph} (same : graph.untimed = other.untimed)
    (id : NodeId) (name : String) : graph.child? id name = other.child? id name := by
  have node := (untimed_eq_iff.mp same).2 id
  rw [child?, child?, ← Node.child?_untimed, node, Node.child?_untimed]

theorem isDirectory_of_untimed {graph other : Graph} (same : graph.untimed = other.untimed)
    (id : NodeId) : (graph.node id).isDirectory = (other.node id).isDirectory := by
  have node := (untimed_eq_iff.mp same).2 id
  rw [← Node.isDirectory_untimed, node, Node.isDirectory_untimed]

theorem untimed_addUnder {graph other : Graph} (same : graph.untimed = other.untimed)
    (directory : (graph.node parent).isDirectory = true) (name : String) {make : Int → Node}
    (timeless : ∀ now, (make now).untimed = (make 0).untimed) :
    (graph.addUnder parent name make).untimed = (other.addUnder parent name make).untimed := by
  have directory' : (other.node parent).isDirectory = true := by
    rw [← isDirectory_of_untimed same, directory]
  obtain ⟨size, nodes⟩ := untimed_eq_iff.mp same
  refine untimed_eq_iff.mpr ⟨by simp [size], fun id => ?_⟩
  rw [node_addUnder directory, node_addUnder directory', size]
  split
  · rw [timeless, timeless other.clock]
  · split
    · rw [Node.untimed_link, nodes, ← Node.untimed_link]
    · exact nodes id

end Graph

def untimedOutcome (outcome : Except FsError Answer × Graph) : Except FsError Answer × Graph :=
  outcome.map (Except.map Answer.untimed) Graph.untimed

namespace FileSystem

theorem timeless_of_intent {fs : FileSystem} (made : fs.intent request = .make path make)
    (now : Int) : (make now).untimed = (make 0).untimed := by
  cases request <;> cases made <;> rfl

theorem view_untimed {fs : FileSystem} (seen : fs.intent request = .look path view) (absolute : Path)
    (node : Node) : (view absolute node).map Answer.untimed =
      (view absolute node.untimed).map Answer.untimed := by
  cases request with
  | readPosix =>
    cases seen
    unfold Node.posixAttributes
    cases owned : node.ownership with
    | none => simp [Node.untimed, owned]
    | some ownership =>
      simp only [Node.untimed, owned]
      rfl
  | createDirectory | createFile | createSymbolicLink => cases seen
  | readBasic | checkAccess | listChildren =>
    cases seen
    rfl

theorem untimed_linkNew {graph other : Graph} (same : graph.untimed = other.untimed)
    (parent absolute : Path) (name : String) {make : Int → Node}
    (timeless : ∀ now, (make now).untimed = (make 0).untimed) (target : NodeId) :
    (linkNew parent absolute name make target graph).outcome.map id Graph.untimed =
      (linkNew parent absolute name make target other).outcome.map id Graph.untimed := by
  have directory := Graph.isDirectory_of_untimed same target
  have child := Graph.child?_of_untimed same target name
  cases leaf : (graph.node target).isDirectory with
  | false =>
    rw [linkNew_of_leaf parent absolute leaf, linkNew_of_leaf parent absolute (directory ▸ leaf)]
    simp [Reply.outcome, same]
  | true =>
    cases taken : graph.child? target name with
    | some node =>
      rw [linkNew_of_taken parent absolute taken, linkNew_of_taken parent absolute (child ▸ taken)]
      simp [Reply.outcome, same]
    | none =>
      rw [linkNew_of_free parent absolute leaf taken,
        linkNew_of_free parent absolute (directory ▸ leaf) (child ▸ taken)]
      simp [Reply.outcome, Graph.untimed_addUnder same leaf name timeless]

theorem untimed_work {fs : FileSystem} (planned : fs.plan request = .ok t) {graph other : Graph}
    (same : graph.untimed = other.untimed) (target : NodeId) :
    untimedOutcome (t.work target graph).outcome = untimedOutcome (t.work target other).outcome := by
  cases about : fs.intent request with
  | make path make =>
    obtain ⟨absolute, start, name, parent, -, -, -, -, rfl⟩ := plan_make_eq_ok about planned
    have linked := untimed_linkNew same parent absolute name (timeless_of_intent about) target
    rw [outcome_makeAt, outcome_makeAt]
    exact congrArg (Prod.map (Except.map Answer.untimed ∘ Except.map fun _ => .done) id) linked
  | look path view =>
    obtain ⟨absolute, start, -, rfl⟩ := plan_look_eq_ok about planned
    have node := (Graph.untimed_eq_iff.mp same).2 target
    have seen := view_untimed about absolute
    simp only [look, Reply.outcome, untimedOutcome, Prod.map, same, Prod.mk.injEq, and_true]
    rw [seen, node, ← seen]

/-- What a request comes to depends on the graph without times only. -/
theorem untimed_serve (fs : FileSystem) (request : Request) {graph other : Graph}
    (same : graph.untimed = other.untimed) :
    untimedOutcome (fs.serve request graph).outcome =
      untimedOutcome (fs.serve request other).outcome := by
  rw [outcome_serve, outcome_serve]
  have links := Graph.child?_of_untimed same
  cases planned : fs.plan request with
  | error error =>
    rw [Plan.outcome_error, Plan.outcome_error]
    simp [untimedOutcome, same]
  | ok t =>
    have grown : graph.Extends other := fun _ _ _ linked => by rwa [← links]
    rw [Plan.outcome_ok, Plan.outcome_ok]
    rcases Route.exists_or_stop graph t.start t.path.segments with
      ⟨above, target, route⟩ | ⟨front, name, rest, above, node, names, route, stop⟩
    · rw [t.outcome_of_route route, t.outcome_of_route (route.mono grown)]
      exact untimed_work planned same target
    · have stop' : other.child? node name = none := by rw [← links, stop]
      have fault : t.stopError graph node above.length = t.stopError other node above.length := by
        unfold Traversal.stopError
        rw [Graph.isDirectory_of_untimed same]
      rw [t.outcome_of_stop names route stop, t.outcome_of_stop names (route.mono grown) stop', fault]
      simp [untimedOutcome, same]

end FileSystem

end CoupledFs
