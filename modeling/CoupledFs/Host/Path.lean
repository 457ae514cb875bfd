import CoupledFs.Text.Fields

/-! The paths of the machine that the program runs on, as text with slashes. -/

namespace CoupledFs.Host.Path

/-- Whether a path starts at the top of the machine's tree. -/
def isAbsolute (path : String) : Bool :=
  path.toList.head? = some '/'

/-- The names in a path. Repeated slashes count as one, and `.` counts only where a relative path
starts with it. -/
def components (path : String) : List String :=
  match (Text.fields (· = '/') path).filter (· ≠ "") with
  | [] => []
  | first :: rest =>
    let rest := rest.filter (· ≠ ".")
    if first = "." ∧ isAbsolute path then rest else first :: rest

/-- The path of the given names. -/
def ofComponents (absolute : Bool) (names : List String) : String :=
  (if absolute then "/" else "") ++ String.intercalate "/" names

/-- The path without its last name, if it has a name. -/
def parent? (path : String) : Option String :=
  match components path with
  | [] => none
  | names => some (ofComponents (isAbsolute path) names.dropLast)

/-- The name that a path ends in, unless it is one that only points around. -/
def fileName? (path : String) : Option String :=
  (components path).getLast?.filter fun name => name ≠ "." ∧ name ≠ ".."

/-- The second path as seen from the first. -/
def join (base path : String) : String :=
  if isAbsolute path ∨ base = "" then path
  else if base.toList.getLast? = some '/' then base ++ path
  else base ++ "/" ++ path

def withFileName (path name : String) : String :=
  match fileName? path, parent? path with
  | some _, some parent => join parent name
  | _, _ => join path name

end CoupledFs.Host.Path
