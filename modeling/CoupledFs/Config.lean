import CoupledFs.Node
import CoupledFs.Path.Style

/-! What a file system is built from. -/

namespace CoupledFs

/-- A set of attributes that a file system may show of its nodes. -/
inductive AttributeView where
  | basic
  | posix
  deriving DecidableEq, Repr

def AttributeView.name : AttributeView → String
  | basic => BasicAttributes.viewName
  | posix => PosixAttributes.viewName

/-- The configuration of a file system. -/
structure Config where
  pathStyle : PathStyle
  /-- The names of the roots; the style has its own where none are given. -/
  roots : Option (List String)
  storeName : String
  readOnly : Bool
  views : List AttributeView
  directoryMode : UInt32
  fileMode : UInt32
  owner : String
  group : String
  users : List String
  groups : List String
  deriving DecidableEq, Repr

namespace Config

def unix : Config where
  pathStyle := .unix
  roots := none
  storeName := "memfs"
  readOnly := false
  views := [.basic, .posix]
  directoryMode := 0o755
  fileMode := 0o644
  owner := "root"
  group := "root"
  users := ["root"]
  groups := ["root"]

def windows : Config :=
  { unix with
    pathStyle := .windows
    views := [.basic]
    owner := "Administrator"
    group := "Administrators"
    users := ["Administrator"]
    groups := ["Administrators"] }

instance : Inhabited Config := ⟨unix⟩

/-- The roots of the given names, after those already found. -/
def resolveAfter (style : PathStyle) (found : List Root) :
    List String → Except FsError (List Root)
  | [] => .ok found
  | name :: names => do
    let root ← style.rootNamed name
    if root ∈ found then
      throw (.invalidArgument (.rootListedTwice root.display))
    resolveAfter style (found ++ [root]) names

/-- The roots of a new file system, in the order in which they are named. -/
def resolvedRoots (config : Config) : Except FsError (List Root) :=
  match config.roots with
  | none => .ok config.pathStyle.defaultRoots
  | some names => resolveAfter config.pathStyle [] names

/-- Whether a view is enabled. -/
def supports (config : Config) (view : AttributeView) : Bool :=
  view ∈ config.views

/-- The owner that new nodes get, if the posix view is enabled. -/
def ownership (config : Config) : Option Ownership :=
  if config.supports .posix then some ⟨config.owner, config.group⟩ else none

/-- Refuses a configuration without roots, without the basic view, or with roots that the style
does not have. -/
def validate (config : Config) : Except FsError Unit := do
  if config.roots = some [] then
    throw (.invalidArgument .noRoots)
  unless config.supports .basic do
    throw (.invalidArgument .basicViewDisabled)
  discard config.resolvedRoots

end Config

end CoupledFs
