import CoupledFs.Host
import CoupledFs.Host.Path

/-! A machine's files as a value, for running the program without a machine. -/

namespace CoupledFs.Host

/-- Directories and files by their place in the tree, and where relative paths start. A directory
has no bytes; the top of the tree is always there. -/
structure Disk where
  entries : List (List String × Option (List UInt8)) := []
  workingDirectory : List String := []
  deriving Repr

namespace Disk

/-- What is at a place: nothing, a directory, or a file with its bytes. -/
def lookup (disk : Disk) : List String → Option (Option (List UInt8))
  | [] => some none
  | place => disk.entries.lookup place

/-- The longest name, in bytes. -/
def maxNameSize : Nat := 255

/-- The longest path, in bytes. -/
def maxPathSize : Nat := 4095

/-- One step from a place, which has to be a directory. -/
private def enter (disk : Disk) (place : List String) (name : String) :
    Except Failure (List String) :=
  match disk.lookup place with
  | none => .error .notFound
  | some (some _) => .error .notADirectory
  | some none =>
    if name = "." then .ok place
    else if name = ".." then .ok place.dropLast
    else if maxNameSize < name.utf8ByteSize then .error .nameTooLong
    else .ok (place ++ [name])

private def pieces (path : String) : List String :=
  (Text.fields (· = '/') path).filter (· ≠ "")

/-- Follows some of the names in a path from where it starts. -/
private def follow (disk : Disk) (path : String) (names : List String) :
    Except Failure (List String) :=
  if '\x00' ∈ path.toList then .error .nulInPath
  else if path = "" then .error .notFound
  else if maxPathSize < path.utf8ByteSize then .error .nameTooLong
  else names.foldlM disk.enter (if Path.isAbsolute path then [] else disk.workingDirectory)

/-- The place that a path leads to, whether or not something is there. -/
def locate (disk : Disk) (path : String) : Except Failure (List String) :=
  disk.follow path (pieces path)

/-- The directory that the last name in a path is looked for in. -/
def locateParent (disk : Disk) (path : String) : Except Failure (List String) := do
  let place ← disk.follow path (pieces path).dropLast
  match disk.lookup place with
  | none => .error .notFound
  | some (some _) => .error .notADirectory
  | some none => .ok place

private def endsInSlash (path : String) : Bool :=
  path.toList.getLast? = some '/'

def readFile (disk : Disk) (path : String) : Except Failure (List UInt8) := do
  match disk.lookup (← disk.locate path) with
  | none => .error .notFound
  | some none => .error .isADirectory
  | some (some bytes) => if endsInSlash path then .error .notADirectory else .ok bytes

def isDirectory (disk : Disk) (path : String) : Bool :=
  match disk.locate path with
  | .ok place => disk.lookup place = some none
  | .error _ => false

private def put (disk : Disk) (place : List String) (content : Option (List UInt8)) : Disk :=
  { disk with entries := (place, content) :: disk.entries.filter (·.1 ≠ place) }

def createDirectory (disk : Disk) (path : String) : Except Failure Disk := do
  let place ← disk.locate path
  match disk.lookup place with
  | some _ => .error .alreadyExists
  | none => .ok (disk.put place none)

private def createWithin : Nat → Disk → String → Except Failure Disk
  | 0, disk, _ => .ok disk
  | depth + 1, disk, path =>
    let make (disk : Disk) : Except Failure Disk :=
      match disk.createDirectory path with
      | .ok disk => .ok disk
      | .error failure => if disk.isDirectory path then .ok disk else .error failure
    if path = "" then .ok disk
    else match make disk with
      | .ok disk => .ok disk
      | .error .notFound =>
        match Path.parent? path with
        | some parent => do make (← createWithin depth disk parent)
        | none => .error .notFound
      | .error failure => .error failure

/-- Makes a directory and those above it, as far as they are missing. -/
def createDirectories (disk : Disk) (path : String) : Except Failure Disk :=
  createWithin ((Path.components path).length + 1) disk path

/-- Changes the bytes of a file, which is made if it is missing. A path that ends in a slash can only
name a directory, so what its last name leads to is not looked at. -/
private def change (disk : Disk) (path : String) (bytes : List UInt8 → List UInt8) :
    Except Failure Disk := do
  if endsInSlash path then
    discard <| disk.locateParent path
    throw .isADirectory
  let place ← disk.locate path
  match disk.lookup place with
  | some none => .error .isADirectory
  | some (some old) => .ok (disk.put place (some (bytes old)))
  | none => .ok (disk.put place (some (bytes [])))

def appendFile (disk : Disk) (path : String) (bytes : List UInt8) : Except Failure Disk :=
  disk.change path (· ++ bytes)

/-- Makes a file anew. -/
def writeFile (disk : Disk) (path : String) (bytes : List UInt8) : Except Failure Disk :=
  disk.change path fun _ => bytes

/-- The files below a directory, with their bytes. -/
def filesBelow (disk : Disk) (directory : List String) : List (List String × List UInt8) :=
  disk.entries.filterMap fun (place, content) =>
    if directory.isPrefixOf place then content.map (place.drop directory.length, ·) else none

end Disk

private def updating (change : Disk → Except Failure Disk) : StateM Disk (Except Failure Unit) :=
  fun disk => match change disk with
    | .ok disk => (.ok (), disk)
    | .error failure => (.error failure, disk)

instance : Host (StateM Disk) Failure where
  refusal := .failure
  readFile path := fun disk => (disk.readFile path, disk)
  createDirectories path := updating (·.createDirectories path)
  appendFile path bytes := updating (·.appendFile path bytes)
  writeFile path bytes := updating (·.writeFile path bytes)
  milliseconds := fun disk => (0, disk)

end CoupledFs.Host
