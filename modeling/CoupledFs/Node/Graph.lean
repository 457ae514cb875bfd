import CoupledFs.Node

/-! A store of nodes that link one another. -/

namespace CoupledFs

/-- All nodes that exist, and the time that new stamps are taken from. A node may be linked under
several names. -/
structure Graph where
  nodes : Array Node := #[]
  clock : Int := 0
  deriving Repr

namespace Graph

def size (graph : Graph) : Nat := graph.nodes.size

/-- The node of a given identity; one that was never made counts as an empty file. -/
def node (graph : Graph) (id : NodeId) : Node :=
  graph.nodes[id]?.getD default

/-- The node that a directory links under a name. -/
def child? (graph : Graph) (id : NodeId) (name : String) : Option NodeId :=
  (graph.node id).child? name

/-- Adds a node that nothing links yet. -/
def add (graph : Graph) (make : Int → Node) : Graph × NodeId :=
  let fresh := make graph.clock
  let id := graph.size
  ({ graph with nodes := graph.nodes.push fresh }, id)

def link (graph : Graph) (directory : NodeId) (name : String) (child : NodeId) : Graph :=
  let now := graph.clock
  { graph with nodes := graph.nodes.modify directory (·.link now name child) }

/-- The graph with a new node linked under `name` in a directory. -/
def addUnder (graph : Graph) (directory : NodeId) (name : String) (make : Int → Node) : Graph :=
  let (graph, child) := graph.add make
  graph.link directory name child

/-- Links a node under a name that is still free. -/
def addChild (graph : Graph) (directory : NodeId) (name : String) (child : NodeId) :
    Except FsError Graph := do
  (graph.node directory).linkable name
  return graph.link directory name child

end Graph

end CoupledFs
