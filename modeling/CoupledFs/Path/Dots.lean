/-! Doing away with `.` and `..` in a list of path components. -/

namespace CoupledFs.Path

/-- Why components cannot be reduced to names. -/
inductive DotFault where
  /-- A `..` with no name before it that it could take back. -/
  | escapes
  /-- A name that holds the character NUL. -/
  | forbidden (name : String)
  deriving DecidableEq, Repr

/-- Reduces components after the names in `names`, which stand innermost first. An empty
component and `.` count for nothing, and `..` takes back the name before it. -/
def reduceAfter (names : List String) : List String → Except DotFault (List String)
  | [] => .ok names.reverse
  | component :: rest =>
    if component = "" ∨ component = "." then reduceAfter names rest
    else if component = ".." then
      match names with
      | [] => .error .escapes
      | _ :: outer => reduceAfter outer rest
    else if '\x00' ∈ component.toList then .error (.forbidden component)
    else reduceAfter (component :: names) rest

/-- The names that a list of components comes down to. -/
def reduceDots (components : List String) : Except DotFault (List String) :=
  reduceAfter [] components

end CoupledFs.Path
