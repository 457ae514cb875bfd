import CoupledFs.FileSystem

/-! A provider of file systems, which it keeps under keys while they are open. -/

namespace CoupledFs

/-- A file system's place in the list of all that were built. -/
abbrev SystemId := Nat

/-- All file systems that were built, the keys of those that are registered, and the nodes. -/
structure Provider where
  graph : Graph := {}
  systems : Array FileSystem := #[]
  registry : List (String × SystemId) := []
  /-- Whether the registry is still there; the file systems can outlive it. -/
  hasRegistry : Bool := true
  deriving Repr

namespace Provider

def system? (provider : Provider) (id : SystemId) : Option FileSystem :=
  provider.systems[id]?

def request (id : SystemId) (action : FileSystem → Action Graph α) : Action Provider α :=
  fun provider =>
    match provider.system? id with
    | some fs =>
      (Action.onPart Provider.graph (fun p graph => { p with graph }) (action fs)) provider
    | none => ⟨.error (.unknownFileSystem ""), provider, []⟩

/-- Builds a file system and adds it to the list. -/
def construct (key : String) (config : Config) (registered : Bool) :
    Action Provider SystemId := do
  let fs ← Action.onPart Provider.graph (fun p graph => { p with graph })
    (FileSystem.build key config registered)
  let id ← Action.inspect (·.systems.size)
  Action.modify fun provider => { provider with systems := provider.systems.push fs }
  return id

/-- Builds a file system that no key leads to. -/
def newDetached (key : String) (config : Config) : Action Provider SystemId :=
  construct key config false

/-- Builds a file system and registers it. A key that is taken is refused whatever the
configuration. -/
def newFileSystem (key : String) (config : Config) : Action Provider SystemId := do
  if (← Action.inspect (·.registry.lookup key)).isSome then
    Action.fail (.alreadyExists ("file system " ++ key))
  else
    let id ← construct key config true
    Action.modify fun provider => { provider with registry := (key, id) :: provider.registry }
    Action.report (.registered key)
    return id

/-- The file system that is registered under a key. -/
def lookup (provider : Provider) (key : String) : Except FsError SystemId :=
  match provider.registry.lookup key with
  | some id => .ok id
  | none => .error (.unknownFileSystem key)

/-- The keys in use, in order. -/
def keys (provider : Provider) : List String :=
  (provider.registry.map Prod.fst).mergeSort (· ≤ ·)

/-- Takes a key out of use, whichever file system it leads to. -/
def deregister (key : String) : Action Provider Unit := do
  if (← Action.inspect (·.registry.lookup key)).isSome then
    Action.modify fun provider =>
      { provider with registry := provider.registry.filter (·.1 ≠ key) }
    Action.report (.deregistered key)

/-- Closes a file system to requests, and tells whether it was open until now. -/
def shut (id : SystemId) : Action Provider Bool := do
  match ← Action.inspect (·.system? id) with
  | some fs =>
    let (wasOpen, lifecycle) := fs.lifecycle.close
    Action.modify fun provider =>
      { provider with systems := provider.systems.modify id ({ · with lifecycle }) }
    return wasOpen
  | none => return false

/-- Closes a file system. Whoever closes it first also takes its key out of use. -/
def close (id : SystemId) : Action Provider Unit := do
  if ← shut id then
    match ← Action.inspect (·.system? id) with
    | some fs =>
      if fs.registered ∧ (← Action.inspect hasRegistry) then
        deregister fs.key
      Action.report (.systemClosed fs.key)
    | none => return

/-- Does away with the registry and keeps the file systems. -/
def dropRegistry (provider : Provider) : Provider :=
  { provider with registry := [], hasRegistry := false }

/-- Replaces the roots of a file system, open or not. -/
def setRoots (id : SystemId) (table : RootTable) : Action Provider Unit := do
  Action.report (.rootsReplaced table.size)
  Action.modify fun provider =>
    { provider with systems := provider.systems.modify id (·.withRoots table) }

end Provider

end CoupledFs
