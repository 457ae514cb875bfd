import CoupledFs.Error

/-! The nodes of a tree: directories, files and symbolic links. -/

namespace CoupledFs

/-- A node's name in the graph that holds it. -/
abbrev NodeId := Nat

/-- The three kinds of node. -/
inductive NodeKind where
  | directory
  | file
  | symlink
  deriving DecidableEq, Repr

/-- When a node was read, changed and made, in seconds since 1970. -/
structure Timestamps where
  accessed : Int
  modified : Int
  changed : Int
  born : Int
  deriving DecidableEq, Repr

namespace Timestamps

/-- The times of a node made at `now`. -/
def fresh (now : Int) : Timestamps := ⟨now, now, now, now⟩

/-- The times after a change to what the node holds. -/
def touch (times : Timestamps) (now : Int) : Timestamps :=
  { times with modified := now, changed := now }

end Timestamps

/-- What an access check may ask for. -/
inductive AccessMode where
  | read
  | write
  | execute
  deriving DecidableEq, Repr

namespace AccessMode

/-- The permission bit that grants this mode to the owner. -/
def ownerBit : AccessMode → UInt32
  | read => 0o400
  | write => 0o200
  | execute => 0o100

/-- The mode as error texts name it. -/
def word : AccessMode → String
  | read => "Read"
  | write => "Write"
  | execute => "Execute"

end AccessMode

/-- Who a node belongs to. -/
structure Ownership where
  owner : String
  group : String
  deriving DecidableEq, Repr

/-- What a node holds. -/
inductive Content where
  /-- Names in the order in which they were linked. -/
  | directory (children : List (String × NodeId))
  | file (bytes : List UInt8)
  | symlink (target : String)
  deriving DecidableEq, Repr

def symlinkMode : UInt32 := 0o777

/-- A node without its place in a tree. -/
structure Node where
  content : Content
  times : Timestamps
  mode : UInt32
  ownership : Option Ownership
  deriving DecidableEq, Repr

/-- The attributes that every node has. -/
structure BasicAttributes where
  kind : NodeKind
  size : Nat
  times : Timestamps
  deriving DecidableEq, Repr

/-- The attributes of a node that has an owner. -/
structure PosixAttributes where
  basic : BasicAttributes
  owner : String
  group : String
  permissions : UInt32
  deriving DecidableEq, Repr

def BasicAttributes.viewName : String := "basic"

def PosixAttributes.viewName : String := "posix"

namespace Node

def newDirectory (now : Int) (mode : UInt32) (ownership : Option Ownership) : Node :=
  ⟨.directory [], .fresh now, mode, ownership⟩

def newFile (now : Int) (mode : UInt32) (ownership : Option Ownership) : Node :=
  ⟨.file [], .fresh now, mode, ownership⟩

/-- A link to `target`, which need not exist. -/
def newSymlink (now : Int) (target : String) (ownership : Option Ownership) : Node :=
  ⟨.symlink target, .fresh now, symlinkMode, ownership⟩

instance : Inhabited Node := ⟨newFile 0 0 none⟩

def kind (node : Node) : NodeKind :=
  match node.content with
  | .directory _ => .directory
  | .file _ => .file
  | .symlink _ => .symlink

def isDirectory (node : Node) : Bool :=
  node.kind = .directory

/-- The names that a directory links; none for any other node. -/
def children (node : Node) : List (String × NodeId) :=
  match node.content with
  | .directory children => children
  | .file _ | .symlink _ => []

/-- The node that a directory links under a name. -/
def child? (node : Node) (name : String) : Option NodeId :=
  node.children.lookup name

/-- The names in a directory, in the order of their code points. -/
def childNames? (node : Node) : Option (List String) :=
  match node.content with
  | .directory children => some ((children.map Prod.fst).mergeSort (· ≤ ·))
  | .file _ | .symlink _ => none

/-- Bytes for a file, the bytes of the target's text for a link, and nothing for a directory. -/
def size (node : Node) : Nat :=
  match node.content with
  | .directory _ => 0
  | .file bytes => bytes.length
  | .symlink target => target.utf8ByteSize

def basicAttributes (node : Node) : BasicAttributes :=
  ⟨node.kind, node.size, node.times⟩

def posixAttributes (node : Node) : Except FsError PosixAttributes :=
  match node.ownership with
  | some ownership =>
    .ok ⟨node.basicAttributes, ownership.owner, ownership.group, node.mode &&& 0o7777⟩
  | none => .error (.unsupportedAttribute PosixAttributes.viewName)

/-- Denies the first requested mode that the owner's bits do not grant. -/
def checkAccess (node : Node) (modes : List AccessMode) : Except FsError Unit :=
  match modes.find? (fun mode => node.mode &&& mode.ownerBit = 0) with
  | some mode => .error (.accessDenied (mode.word ++ " not permitted"))
  | none => .ok ()

/-- Whether another node can be linked under `name`. -/
def linkable (node : Node) (name : String) : Except FsError Unit :=
  if !node.isDirectory then .error (.notADirectory name)
  else if (node.child? name).isSome then .error (.alreadyExists name)
  else .ok ()

/-- The node with `child` linked under `name`; only a directory links anything. -/
def link (node : Node) (now : Int) (name : String) (child : NodeId) : Node :=
  match node.content with
  | .directory children =>
    { node with
      content := .directory (children ++ [(name, child)])
      times := node.times.touch now }
  | .file _ | .symlink _ => node

end Node

end CoupledFs
