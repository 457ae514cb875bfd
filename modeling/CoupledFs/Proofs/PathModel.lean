import CoupledFs.Proofs.PathMap
import CoupledFs.Proofs.Request
import Mathlib.Logic.Function.Basic

/-! File systems without nodes and locks: one map for each root, and whether requests are served. -/

namespace CoupledFs

/-- A file system as far as its answers tell, but for times. -/
structure PathModel where
  isOpen : Bool
  maps : Root → Option PathMap

/-- What a file system is asked in the course of its life. -/
inductive Call where
  | request (request : Request)
  | close
  deriving DecidableEq, Repr

namespace Descriptor

def basic (entry : Descriptor) : BasicAttributes :=
  ⟨entry.kind, entry.size, .fresh 0⟩

def posix (entry : Descriptor) : Except FsError Answer :=
  match entry.ownership with
  | some ownership =>
    .ok (.posix ⟨entry.basic, ownership.owner, ownership.group, entry.mode &&& 0o7777⟩)
  | none => .error (.unsupportedAttribute PosixAttributes.viewName)

def access (entry : Descriptor) (readOnly : Bool) (path : Path) (modes : List AccessMode) :
    Except FsError Answer :=
  match modes.find? fun mode => entry.mode &&& mode.ownerBit = 0 with
  | some mode =>
    .error (.accessDenied
      (path.display ++ ": " ++ ("access denied: " ++ (mode.word ++ " not permitted"))))
  | none =>
    if readOnly ∧ .write ∈ modes then
      .error (.accessDenied (path.display ++ ": read-only file system"))
    else .ok .done

end Descriptor

namespace PathModel

/-- A new file system has an empty directory for each of its roots. -/
def new (config : Config) (roots : List Root) : PathModel where
  isOpen := true
  maps := fun root =>
    if root ∈ roots then
      some (.single ⟨.directory, 0, config.directoryMode, config.ownership⟩ rfl)
    else none

/-- The absolute form of a path, its root, and the map of that root. -/
def locate (model : PathModel) (defaultRoot : Root) (path : Path) :
    Except FsError (Path × Root × PathMap) :=
  let absolute := path.toAbsolute defaultRoot
  match absolute.root?.bind fun root => (model.maps root).map (root, ·) with
  | some (root, map) => .ok (absolute, root, map)
  | none => .error (.noSuchFile ("the root of " ++ path.display ++ " does not exist"))

variable (config : Config) (defaultRoot : Root)

def create (model : PathModel) (path : Path) (entry : Descriptor) :
    Except FsError Answer × PathModel :=
  match model.locate defaultRoot path with
  | .error error => (.error error, model)
  | .ok (absolute, root, map) =>
    if config.readOnly then (.error .readOnly, model)
    else match map.create absolute entry with
      | .error error => (.error error, model)
      | .ok map => (.ok .done, { model with maps := Function.update model.maps root (some map) })

def look (model : PathModel) (path : Path)
    (view : Path → PathMap → Descriptor → Except FsError Answer) : Except FsError Answer := do
  let (absolute, _, map) ← model.locate defaultRoot path
  view absolute map (← map.lookUp absolute)

def serve (model : PathModel) (request : Request) : Except FsError Answer × PathModel :=
  if !model.isOpen then (.error .closed, model)
  else match request with
    | .createDirectory path =>
      model.create config defaultRoot path
        ⟨.directory, 0, config.directoryMode, config.ownership⟩
    | .createFile path =>
      model.create config defaultRoot path ⟨.file, 0, config.fileMode, config.ownership⟩
    | .createSymbolicLink link target =>
      model.create config defaultRoot link
        ⟨.symlink, target.display.utf8ByteSize, symlinkMode, config.ownership⟩
    | .readBasic path =>
      (model.look defaultRoot path fun _ _ entry => .ok (.basic entry.basic), model)
    | .readPosix path => (model.look defaultRoot path fun _ _ entry => entry.posix, model)
    | .checkAccess path modes =>
      (model.look defaultRoot path fun absolute _ entry =>
        entry.access config.readOnly absolute modes, model)
    | .listChildren path =>
      (model.look defaultRoot path fun absolute map entry =>
        if entry.kind = .directory then .ok (.names (map.namesBelow absolute.segments))
        else .error (.notADirectory absolute.display), model)

def perform (model : PathModel) : Call → Except FsError Answer × PathModel
  | .request request => model.serve config defaultRoot request
  | .close => (.ok .done, { model with isOpen := false })

def answers (model : PathModel) : List Call → List (Except FsError Answer)
  | [] => []
  | call :: calls =>
    let (answer, next) := model.perform config defaultRoot call
    answer :: next.answers calls

end PathModel

end CoupledFs
