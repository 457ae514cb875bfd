import CoupledFs.Node.Graph

/-! Ways down a graph along names, and what becomes of them when the graph grows. -/

namespace CoupledFs

namespace Node

theorem isDirectory_iff {node : Node} :
    node.isDirectory = true ↔ ∃ children, node.content = .directory children := by
  unfold isDirectory kind
  cases node.content <;> simp

theorem children_of_not_directory {node : Node} (leaf : node.isDirectory = false) :
    node.children = [] := by
  unfold isDirectory kind at leaf
  unfold children
  cases content : node.content <;> simp_all

theorem isDirectory_of_child? {node : Node} (found : node.child? name = some child) :
    node.isDirectory = true := by
  cases leaf : node.isDirectory with
  | true => rfl
  | false => simp [child?, children_of_not_directory leaf] at found

@[simp]
theorem kind_link (node : Node) (now : Int) (name : String) (child : NodeId) :
    (node.link now name child).kind = node.kind := by
  unfold link kind
  cases content : node.content <;> simp [content]

@[simp]
theorem isDirectory_link (node : Node) (now : Int) (name : String) (child : NodeId) :
    (node.link now name child).isDirectory = node.isDirectory := by
  simp [isDirectory]

theorem children_link {node : Node} (directory : node.isDirectory = true) (now : Int)
    (name : String) (child : NodeId) :
    (node.link now name child).children = node.children ++ [(name, child)] := by
  obtain ⟨children, content⟩ := isDirectory_iff.mp directory
  simp [link, Node.children, content]

theorem child?_link {node : Node} (directory : node.isDirectory = true)
    (free : node.child? name = none) (now : Int) (child : NodeId) (other : String) :
    (node.link now name child).child? other =
      if other = name then some child else node.child? other := by
  unfold child? at free ⊢
  rw [children_link directory, List.lookup_append]
  by_cases same : other = name
  · subst other
    simp [free]
  · have differs : (other == name) = false := by simpa using same
    simp [same, differs, List.lookup_cons]

theorem linkable_eq_ok_iff {node : Node} :
    node.linkable name = .ok () ↔ node.isDirectory = true ∧ node.child? name = none := by
  unfold linkable
  cases node.isDirectory <;> cases node.child? name <;> simp

end Node

namespace Graph

theorem node_of_size_le {graph : Graph} {id : NodeId} (outside : graph.size ≤ id) :
    graph.node id = default := by
  unfold node
  rw [Array.getElem?_eq_none outside]
  rfl

theorem child?_of_size_le {graph : Graph} {id : NodeId} (outside : graph.size ≤ id) (name : String) :
    graph.child? id name = none := by
  unfold child?
  rw [node_of_size_le outside]
  rfl

theorem lt_size_of_child? {graph : Graph} {id : NodeId}
    (linked : graph.child? id name = some child) : id < graph.size := by
  apply Nat.lt_of_not_le
  intro outside
  rw [child?_of_size_le outside] at linked
  cases linked

theorem lt_size_of_isDirectory {graph : Graph} {id : NodeId}
    (directory : (graph.node id).isDirectory = true) : id < graph.size := by
  apply Nat.lt_of_not_le
  intro outside
  rw [node_of_size_le outside] at directory
  cases directory

theorem isDirectory_of_child? {graph : Graph} {id : NodeId}
    (linked : graph.child? id name = some child) : (graph.node id).isDirectory = true :=
  Node.isDirectory_of_child? linked

@[simp]
theorem size_add (graph : Graph) (make : Int → Node) : (graph.add make).1.size = graph.size + 1 := by
  simp [add, size]

@[simp]
theorem size_link (graph : Graph) (directory : NodeId) (name : String) (child : NodeId) :
    (graph.link directory name child).size = graph.size := by
  simp [link, size]

@[simp]
theorem size_addUnder (graph : Graph) (directory : NodeId) (name : String) (make : Int → Node) :
    (graph.addUnder directory name make).size = graph.size + 1 := by
  simp [addUnder]

theorem node_add (graph : Graph) (make : Int → Node) (id : NodeId) :
    (graph.add make).1.node id = if id = graph.size then make graph.clock else graph.node id := by
  by_cases fresh : id = graph.nodes.size
  · simp [add, node, size, fresh]
  · simp [add, node, size, fresh, Array.getElem?_push]

theorem node_link (graph : Graph) (directory : NodeId) (name : String) (child id : NodeId) :
    (graph.link directory name child).node id =
      if id = directory then (graph.node id).link graph.clock name child else graph.node id := by
  simp only [link, node, Array.getElem?_modify]
  by_cases same : directory = id
  · subst directory
    cases graph.nodes[id]? <;> simp
    rfl
  · simp [same, Ne.symm same]

theorem node_addUnder {graph : Graph} (directory : (graph.node parent).isDirectory = true)
    (name : String) (make : Int → Node) (id : NodeId) :
    (graph.addUnder parent name make).node id =
      if id = graph.size then make graph.clock
      else if id = parent then (graph.node parent).link graph.clock name graph.size
      else graph.node id := by
  have inside := lt_size_of_isDirectory directory
  change ((graph.add make).1.link parent name graph.size).node id = _
  rw [node_link, node_add]
  by_cases fresh : id = graph.size
  · have apart : graph.size ≠ parent := Nat.ne_of_gt inside
    simp [fresh, apart]
  · by_cases same : id = parent
    · subst id
      simp [fresh]
      rfl
    · simp [fresh, same]

theorem child?_addUnder {graph : Graph} (directory : (graph.node parent).isDirectory = true)
    (free : graph.child? parent name = none) {make : Int → Node}
    (childless : (make graph.clock).children = []) (id : NodeId) (other : String) :
    (graph.addUnder parent name make).child? id other =
      if id = parent ∧ other = name then some graph.size else graph.child? id other := by
  have inside := lt_size_of_isDirectory directory
  unfold child?
  rw [node_addUnder directory]
  by_cases fresh : id = graph.size
  · have apart : graph.size ≠ parent := Nat.ne_of_gt inside
    simp [fresh, apart, Node.child?, childless, node_of_size_le (Nat.le_refl graph.size)]
    rfl
  · by_cases same : id = parent
    · subst id
      simp [fresh, Node.child?_link directory free]
    · simp [fresh, same]

def Extends (before after : Graph) : Prop :=
  ∀ ⦃parent name child⦄, before.child? parent name = some child →
    after.child? parent name = some child

theorem Extends.refl (graph : Graph) : graph.Extends graph :=
  fun _ _ _ linked => linked

theorem extends_addUnder {graph : Graph} (directory : (graph.node parent).isDirectory = true)
    (free : graph.child? parent name = none) {make : Int → Node}
    (childless : (make graph.clock).children = []) :
    graph.Extends (graph.addUnder parent name make) := by
  intro id other child linked
  rw [child?_addUnder directory free childless]
  split
  · rename_i here
    rw [here.1, here.2, free] at linked
    cases linked
  · exact linked

def resolve (graph : Graph) (start : NodeId) : List String → Option NodeId
  | [] => some start
  | name :: names => (graph.child? start name).bind (graph.resolve · names)

theorem resolve_congr {graph other : Graph}
    (same : ∀ id name, other.child? id name = graph.child? id name) (start : NodeId)
    (names : List String) : other.resolve start names = graph.resolve start names := by
  induction names generalizing start with
  | nil => rfl
  | cons name names ih =>
    rw [resolve, resolve, same]
    congr
    exact funext ih

theorem resolve_append (graph : Graph) (start : NodeId) (names more : List String) :
    graph.resolve start (names ++ more) =
      (graph.resolve start names).bind (graph.resolve · more) := by
  induction names generalizing start with
  | nil => rfl
  | cons name names ih =>
    simp only [List.cons_append, resolve]
    cases graph.child? start name with
    | none => rfl
    | some child => exact ih child

theorem resolve_concat (graph : Graph) (start : NodeId) (names : List String) (name : String) :
    graph.resolve start (names ++ [name]) =
      (graph.resolve start names).bind (graph.child? · name) := by
  rw [resolve_append]
  congr
  funext node
  simp [resolve]

/-- The nodes that looking up names one after the other comes to, outermost first. -/
def visited (graph : Graph) (start : NodeId) : List String → List NodeId
  | [] => [start]
  | name :: names =>
    start :: match graph.child? start name with
      | some child => graph.visited child names
      | none => []

end Graph

/-- A way down a graph along names. The nodes passed before its end are listed outermost first. -/
inductive Route (graph : Graph) : NodeId → List String → List NodeId → NodeId → Prop where
  | here (node : NodeId) : Route graph node [] [] node
  | down {node child target : NodeId} {name : String} {names : List String} {above : List NodeId}
      (linked : graph.child? node name = some child)
      (rest : Route graph child names above target) :
      Route graph node (name :: names) (node :: above) target

namespace Route

variable {graph : Graph}

theorem length_above (route : Route graph start names above target) :
    above.length = names.length := by
  induction route with
  | here => rfl
  | down _ _ ih => simp [ih]

theorem resolve (route : Route graph start names above target) :
    graph.resolve start names = some target := by
  induction route with
  | here => rfl
  | down linked _ ih => simp [Graph.resolve, linked, ih]

theorem of_resolve (found : graph.resolve start names = some target) :
    ∃ above, Route graph start names above target := by
  induction names generalizing start with
  | nil =>
    cases found
    exact ⟨[], .here _⟩
  | cons name names ih =>
    obtain ⟨child, linked, below⟩ := Option.bind_eq_some_iff.mp found
    obtain ⟨above, rest⟩ := ih below
    exact ⟨start :: above, .down linked rest⟩

theorem visited (route : Route graph start names above target) :
    graph.visited start names = above ++ [target] := by
  induction route with
  | here => rfl
  | down linked _ ih => simp [Graph.visited, linked, ih]

theorem concat (route : Route graph start names above target)
    (linked : graph.child? target name = some child) :
    Route graph start (names ++ [name]) (above ++ [target]) child := by
  induction route with
  | here => exact .down linked (.here _)
  | down first _ ih => exact .down first (ih linked)

theorem mono (grown : graph.Extends after) (route : Route graph start names above target) :
    Route after start names above target := by
  induction route with
  | here => exact .here _
  | down linked _ ih => exact .down (grown linked) ih

/-- Names either lead to a node, or there is a first name that a node does not have. -/
theorem exists_or_stop (graph : Graph) (start : NodeId) (names : List String) :
    (∃ above target, Route graph start names above target) ∨
      ∃ front name rest above node, names = front ++ name :: rest ∧
        Route graph start front above node ∧ graph.child? node name = none := by
  induction names generalizing start with
  | nil => exact .inl ⟨[], start, .here _⟩
  | cons name names ih =>
    cases linked : graph.child? start name with
    | none => exact .inr ⟨[], name, names, [], start, rfl, .here _, linked⟩
    | some child =>
      rcases ih child with ⟨above, target, route⟩ | ⟨front, next, rest, above, node, same, route, stop⟩
      · exact .inl ⟨start :: above, target, .down linked route⟩
      · refine .inr ⟨name :: front, next, rest, start :: above, node, ?_, .down linked route, stop⟩
        simp [same]

end Route

end CoupledFs
