import CoupledFs.FileSystem

/-! Whole trees, read through the requests that a file system serves. No tree is deeper than the
graph has nodes, unless a node lies below itself. -/

namespace CoupledFs

/-- A node with everything below it. -/
inductive Tree where
  | directory (children : List (String × Tree))
  | leaf (kind : NodeKind) (size : Nat)
  deriving Repr

namespace FileSystem

private def treeWithin (fs : FileSystem) : Nat → Path → Action Graph Tree
  | 0, _ => pure (.directory [])
  | depth + 1, path => do
    let attributes ← fs.readBasic path
    if attributes.kind = .directory then
      let names ← fs.listChildren path
      return .directory (← names.mapM fun name => do
        return (name, ← fs.treeWithin depth (path.join name)))
    else return .leaf attributes.kind attributes.size

def trees (fs : FileSystem) : Action Graph (List (Root × Tree)) := do
  let table ← fs.rootDirectories
  let depth ← Action.inspect Graph.size
  table.roots.mapM fun root => do
    return (root, ← fs.treeWithin (depth + 1) (.root root))

/-- The number of directories at a path and below it, as far down as `depth` levels. -/
def countWithin (fs : FileSystem) : Nat → Path → Action Graph Nat
  | 0, _ => pure 1
  | depth + 1, path => do
    let names ← fs.listChildren path
    names.foldlM (fun count name => do
      let child := path.join name
      let attributes ← fs.readBasic child
      if attributes.kind = .directory then
        return count + (← fs.countWithin depth child)
      else return count) 1

/-- The number of directories at a path: the one there and all below it. -/
def countDirectories (fs : FileSystem) (path : Path) : Action Graph Nat := do
  let depth ← Action.inspect Graph.size
  fs.countWithin depth path

end FileSystem

end CoupledFs
