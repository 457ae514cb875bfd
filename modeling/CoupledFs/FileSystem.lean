import CoupledFs.Config
import CoupledFs.Lifecycle
import CoupledFs.Path.Parse
import CoupledFs.Principal
import CoupledFs.RootTable
import CoupledFs.Traversal

/-! File systems and what can be asked of them. Every request first makes sure that the file system
is open, then finds the root of its path, and only then locks nodes. -/

namespace CoupledFs

/-- The store that a file system keeps its nodes in. -/
structure StoreInfo where
  name : String
  /-- The key under which the file system is known. -/
  key : String
  readOnly : Bool
  deriving DecidableEq, Repr

def StoreInfo.typeName : String := "memory"

/-- A file system. Its nodes live in a graph, which other file systems may share. -/
structure FileSystem where
  config : Config
  store : StoreInfo
  lifecycle : Lifecycle
  roots : RootTable
  /-- Where relative paths start. -/
  defaultRoot : Root
  principals : Principals
  /-- Whether closing takes the key out of use. -/
  registered : Bool
  deriving DecidableEq, Repr

namespace FileSystem

def makeRoots (config : Config) : List Root → Action Graph (List (Root × NodeId))
  | [] => pure []
  | root :: roots => do
    let directory ← fun graph =>
      let (graph, id) := graph.add (.newDirectory · config.directoryMode config.ownership)
      ⟨.ok id, graph, []⟩
    return (root, directory) :: (← makeRoots config roots)

/-- Builds a file system with an empty directory for each root. -/
def build (key : String) (config : Config) (registered : Bool) : Action Graph FileSystem := do
  Action.ofExcept config.validate
  match ← Action.ofExcept config.resolvedRoots with
  | [] => Action.fail (.invalidArgument .noRoots)
  | first :: others =>
    let table := RootTable.ofList (← makeRoots config (first :: others))
    Action.report (.systemCreated key table.size)
    return {
      config
      store := ⟨config.storeName, key, config.readOnly⟩
      lifecycle := {}
      roots := table
      defaultRoot := first
      principals := ⟨config.users, config.groups⟩
      registered }

def key (fs : FileSystem) : String := fs.store.key

/-- Whether the file system serves requests. -/
def isOpen (fs : FileSystem) : Bool := fs.lifecycle.isOpen

def describe (fs : FileSystem) : String :=
  "MemoryFileSystem \x7b key: " ++ Text.quoted fs.key ++ ", open: " ++ toString fs.isOpen ++ " \x7d"

/-- Refuses a request to a closed file system. -/
def ensureOpen (fs : FileSystem) (operation : String) : Action σ Unit := do
  if let .error error := fs.lifecycle.check then
    Action.report (.usedWhileClosed operation fs.key)
    Action.fail error

/-- The absolute form of a path and the directory that its root stands for. -/
def resolveRoot (fs : FileSystem) (path : Path) : Except FsError (Path × NodeId) :=
  let absolute := path.toAbsolute fs.defaultRoot
  match absolute.root?.bind fs.roots.get? with
  | some directory => .ok (absolute, directory)
  | none => .error (.noSuchFile ("the root of " ++ path.display ++ " does not exist"))

def linkNew (parent absolute : Path) (name : String) (make : Int → Node) (directory : NodeId) :
    Action Graph Unit := fun graph =>
  let node := graph.node directory
  if !node.isDirectory then ⟨.error (.notADirectory parent.display), graph, []⟩
  else match node.linkable name with
    | .error (.alreadyExists _) => ⟨.error (.alreadyExists absolute.display), graph, []⟩
    | .error error => ⟨.error error, graph, []⟩
    | .ok () => ⟨.ok (), graph.addUnder directory name make, []⟩

/-- How to make a node at a path whose parent exists. -/
def planCreate (fs : FileSystem) (path : Path) (make : Int → Node) : Plan Unit :=
  match fs.resolveRoot path with
  | .error error => .error error
  | .ok (absolute, root) =>
    if fs.store.readOnly then .error .readOnly
    else match absolute.lastSegment?, absolute.parent? with
      | some name, some parent => .ok ⟨.write, root, parent, linkNew parent absolute name make⟩
      | _, _ => .error (.invalidArgument (.notCreatable absolute.display))

def look (absolute : Path) (view : Path → Node → Except FsError α) (target : NodeId) :
    Action Graph α := fun graph =>
  ⟨view absolute (graph.node target), graph, []⟩

/-- How to look at the node that a path names. -/
def planRead (fs : FileSystem) (path : Path) (view : Path → Node → Except FsError α) : Plan α :=
  match fs.resolveRoot path with
  | .error error => .error error
  | .ok (absolute, root) =>
    .ok ⟨.read, root, absolute, look absolute view⟩

def createDirectory (fs : FileSystem) (path : Path) : Action Graph Unit :=
  Action.within ⟨"create_directory", path.display, none⟩ do
    fs.ensureOpen "create_directory"
    (fs.planCreate path (.newDirectory · fs.config.directoryMode fs.config.ownership)).perform
    Action.report (.created .directory)

def createFile (fs : FileSystem) (path : Path) : Action Graph Unit :=
  Action.within ⟨"create_file", path.display, none⟩ do
    fs.ensureOpen "create_file"
    (fs.planCreate path (.newFile · fs.config.fileMode fs.config.ownership)).perform
    Action.report (.created .file)

/-- Makes a link to `target`, which is kept as text and need not exist. -/
def createSymbolicLink (fs : FileSystem) (link target : Path) : Action Graph Unit :=
  Action.within ⟨"create_symbolic_link", link.display, some target.display⟩ do
    fs.ensureOpen "create_symbolic_link"
    (fs.planCreate link (.newSymlink · target.display fs.config.ownership)).perform
    Action.report (.created .symlink)

def readNode (fs : FileSystem) (operation : String) (path : Path)
    (view : Path → Node → Except FsError α) : Action Graph α := do
  fs.ensureOpen operation
  (fs.planRead path view).perform

/-- Whether the owner of a node may use it in all the given modes. A mode that the node denies
counts before the store's being read-only. -/
def accessTo (fs : FileSystem) (modes : List AccessMode) (absolute : Path) (node : Node) :
    Except FsError Unit :=
  match node.checkAccess modes with
  | .error error => .error (.accessDenied (absolute.display ++ ": " ++ error.message))
  | .ok () =>
    if fs.store.readOnly ∧ .write ∈ modes then
      .error (.accessDenied (absolute.display ++ ": read-only file system"))
    else .ok ()

/-- The names in a directory, in order. -/
def namesIn (absolute : Path) (node : Node) : Except FsError (List String) :=
  match node.childNames? with
  | some names => .ok names
  | none => .error (.notADirectory absolute.display)

/-- Whether the owner of the node at a path may use it in all the given modes. -/
def checkAccess (fs : FileSystem) (path : Path) (modes : List AccessMode) : Action Graph Unit :=
  fs.readNode "check_access" path (fs.accessTo modes)

/-- The attributes that every node has. -/
def readBasic (fs : FileSystem) (path : Path) : Action Graph BasicAttributes :=
  fs.readNode "read_attributes" path fun _ node => .ok node.basicAttributes

/-- The attributes of a node that has an owner. -/
def readPosix (fs : FileSystem) (path : Path) : Action Graph PosixAttributes :=
  fs.readNode "read_attributes" path fun _ node => node.posixAttributes

/-- The names in the directory at a path, in order. -/
def listChildren (fs : FileSystem) (path : Path) : Action Graph (List String) :=
  fs.readNode "list_children" path namesIn

/-- Refuses what no file system of this kind can do. -/
private def unsupported (fs : FileSystem) (operation : String) : Action σ Unit := do
  fs.ensureOpen operation
  Action.fail (.notImplemented operation)

/-- Reading and writing the bytes of a file is not supported; the path's root has to exist all the
same. -/
def newByteChannel (fs : FileSystem) (path : Path) : Action σ Unit := do
  fs.ensureOpen "new_byte_channel"
  discard <| Action.ofExcept (fs.resolveRoot path)
  Action.fail (.notImplemented "new_byte_channel")

/-- Reading a directory piece by piece is not supported. -/
def newDirectoryStream (fs : FileSystem) (_path : Path) : Action σ Unit :=
  fs.unsupported "new_directory_stream"

/-- Nothing can be deleted. -/
def delete (fs : FileSystem) (_path : Path) : Action σ Unit :=
  fs.unsupported "delete"

/-- Patterns of paths are not supported. -/
def pathMatcher (fs : FileSystem) (_pattern : String) : Action σ Unit :=
  fs.unsupported "path_matcher"

/-- Changes cannot be watched. -/
def newWatchService (fs : FileSystem) : Action σ Unit :=
  fs.unsupported "new_watch_service"

/-- Whether nothing can be created. -/
def isReadOnly (fs : FileSystem) : Action σ Bool := do
  fs.ensureOpen "is_read_only"
  return fs.store.readOnly

def separator (fs : FileSystem) : Action σ Char := do
  fs.ensureOpen "separator"
  return fs.config.pathStyle.separator

def rootDirectories (fs : FileSystem) : Action σ RootTable := do
  fs.ensureOpen "root_directories"
  return fs.roots

/-- The stores, of which there is always one. -/
def fileStores (fs : FileSystem) : Action σ (List StoreInfo) := do
  fs.ensureOpen "file_stores"
  return [fs.store]

/-- The names of the attribute views, each once and in order. -/
def attributeViews (fs : FileSystem) : Action σ (List String) := do
  fs.ensureOpen "supported_file_attribute_views"
  return ([AttributeView.basic, .posix].filter fs.config.supports).map AttributeView.name

def getPath (fs : FileSystem) (first : String) (more : List String) : Action σ Path := do
  fs.ensureOpen "get_path"
  Action.ofExcept (Path.parse fs.config.pathStyle fs.roots.roots first more)

/-- The users and groups of the file system. -/
def lookupService (fs : FileSystem) : Action σ Principals := do
  fs.ensureOpen "user_principal_lookup_service"
  return fs.principals

def withRoots (fs : FileSystem) (table : RootTable) : FileSystem :=
  { fs with roots := table }

end FileSystem

end CoupledFs
