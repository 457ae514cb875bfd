import CoupledFs.Error

/-! Users and groups. -/

namespace CoupledFs

/-- A user or a group. -/
inductive Principal where
  | user (name : String)
  | group (name : String)
  deriving DecidableEq, Repr

/-- The users and groups that a file system knows. -/
structure Principals where
  users : List String
  groups : List String
  deriving DecidableEq, Repr

namespace Principals

def user (principals : Principals) (name : String) : Except FsError Principal :=
  if name ∈ principals.users then .ok (.user name) else .error (.unknownPrincipal name)

def group (principals : Principals) (name : String) : Except FsError Principal :=
  if name ∈ principals.groups then .ok (.group name) else .error (.unknownPrincipal name)

end Principals

end CoupledFs
