import CoupledFs.Path.Root

/-! Paths: a bare root, or names under an optional root. -/

namespace CoupledFs

/-- One or more names, absolute when a root stands before them and relative otherwise. -/
structure ElementPath where
  root : Option Root
  segments : List String
  separator : Char
  segments_ne_nil : segments ≠ []
  deriving DecidableEq, Repr

/-- A path through one tree. -/
inductive Path where
  | root (root : Root)
  | element (path : ElementPath)
  deriving DecidableEq, Repr

namespace ElementPath

def lastSegment (path : ElementPath) : String :=
  path.segments.getLast path.segments_ne_nil

/-- The text of the root, which is empty where there is none. -/
def anchor (path : ElementPath) : String :=
  (path.root.map Root.display).getD ""

/-- Writes one more name, behind the path's separator unless it is the first. -/
private def write (path : ElementPath) (shown : String) : String × Nat → String
  | (name, 0) => shown ++ name
  | (name, _ + 1) => shown.push path.separator ++ name

/-- The text of the root and of one name after the other. -/
def display (path : ElementPath) : String :=
  path.segments.zipIdx.foldl path.write path.anchor

/-- The text of the path cut off after its first `length` names, which are joined by the path's
separator. -/
def displayUpTo (path : ElementPath) (length : Nat) : String :=
  path.anchor ++ String.intercalate (String.singleton path.separator) (path.segments.take length)

private theorem foldl_write (path : ElementPath) (shown first : String) (names : List String)
    (place : Nat) : (names.zipIdx (place + 1)).foldl path.write (shown ++ first) =
      shown ++ String.intercalate (String.singleton path.separator) (first :: names) := by
  induction names generalizing shown first place with
  | nil => rw [String.intercalate_singleton]; rfl
  | cons next rest ih =>
    rw [List.zipIdx_cons, List.foldl_cons, write, ih, String.intercalate_cons_cons]
    simp only [String.push_eq_append, String.append_assoc]

/-- One name after the other, the names come to what they come to when they are joined. -/
theorem display_eq (path : ElementPath) : path.display =
    path.anchor ++ String.intercalate (String.singleton path.separator) path.segments := by
  unfold display
  cases named : path.segments with
  | nil => exact absurd named path.segments_ne_nil
  | cons first rest => exact path.foldl_write path.anchor first rest 0

end ElementPath

namespace Path

/-- The path made of a root and names; there is none without either. -/
def ofParts (root : Option Root) (segments : List String) (separator : Char) : Option Path :=
  match segments with
  | [] => root.map .root
  | first :: rest => some (.element ⟨root, first :: rest, separator, List.cons_ne_nil first rest⟩)

def root? : Path → Option Root
  | root r => some r
  | element path => path.root

def isAbsolute (path : Path) : Bool :=
  path.root?.isSome

/-- The names of the path, outermost first; a bare root has none. -/
def segments : Path → List String
  | root _ => []
  | element path => path.segments

def lastSegment? : Path → Option String
  | root _ => none
  | element path => some path.lastSegment

/-- The path without its last name. The parent of a single name is its root, if it has one. -/
def parent? : Path → Option Path
  | root _ => none
  | element path => ofParts path.root path.segments.dropLast path.separator

private def parentsWithin : Nat → Path → List Path
  | 0, _ => []
  | count + 1, path =>
    match path.parent? with
    | some parent => parent :: parentsWithin count parent
    | none => []

/-- The parent, its parent and so on; each has a name less, so there are at most as many of them
as the path has names. -/
def parents (path : Path) : List Path :=
  parentsWithin path.segments.length path

theorem length_of_parent? {path parent : Path} (above : path.parent? = some parent) :
    path.segments.length = parent.segments.length + 1 := by
  cases path with
  | root r => cases above
  | element e =>
    have shorter : e.segments.length = e.segments.dropLast.length + 1 := by
      have some_name := List.length_pos_iff.mpr e.segments_ne_nil
      rw [List.length_dropLast]
      omega
    unfold parent? ofParts at above
    cases front : e.segments.dropLast with
    | nil =>
      simp only [front, Option.map_eq_some_iff] at above
      obtain ⟨_, -, rfl⟩ := above
      rwa [front] at shorter
    | cons first rest =>
      simp only [front, Option.some.injEq] at above
      subst above
      rwa [front] at shorter

theorem parents_of_parent? {path parent : Path} (above : path.parent? = some parent) :
    path.parents = parent :: parent.parents := by
  rw [parents, length_of_parent? above, parentsWithin, above]
  rfl

theorem parents_of_orphan {path : Path} (orphan : path.parent? = none) : path.parents = [] := by
  unfold parents
  cases path.segments.length with
  | zero => rfl
  | succ count => rw [parentsWithin, orphan]

/-- The path anchored at `defaultRoot`, unless it is anchored already. -/
def toAbsolute (path : Path) (defaultRoot : Root) : Path :=
  match path with
  | element e => match e.root with
    | none => element { e with root := some defaultRoot }
    | some _ => path
  | root _ => path

def display : Path → String
  | root r => r.display
  | element path => path.display

/-- The text of the path cut off after its first `length` names. -/
def displayUpTo : Path → Nat → String
  | root r, _ => r.display
  | element path, length => path.displayUpTo length

/-- The text of a path that is cut off behind its last name is all there. -/
theorem displayUpTo_length (path : Path) : path.displayUpTo path.segments.length = path.display := by
  cases path with
  | root r => rfl
  | element e =>
    rw [displayUpTo, display, segments, ElementPath.displayUpTo, List.take_length, e.display_eq]

/-- The path to `name` in the directory at `path`. Names are separated as the root prescribes,
and by `/` where there is no root. -/
def join (path : Path) (name : String) : Path :=
  element {
    root := path.root?
    segments := path.segments ++ [name]
    separator := (path.root?.map Root.separator).getD '/'
    segments_ne_nil := by simp }

end Path

end CoupledFs
