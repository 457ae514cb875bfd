import CoupledFs.Config
import CoupledFs.Path
import Mathlib.Data.List.AList

/-! A tree as a map from lists of names to what is there. No node stands behind an entry, and none is
shared. -/

namespace CoupledFs

/-- What is known of an entry besides its times. -/
structure Descriptor where
  kind : NodeKind
  size : Nat
  mode : UInt32
  ownership : Option Ownership
  deriving DecidableEq, Repr

/-- A finite map in which there is a directory above every entry, and one at the top. -/
structure PathMap where
  entries : AList fun _ : List String => Descriptor
  top : ∃ entry, entries.lookup [] = some entry ∧ entry.kind = .directory
  closed : ∀ ⦃names name entry⦄, entries.lookup (names ++ [name]) = some entry →
    ∃ above, entries.lookup names = some above ∧ above.kind = .directory

namespace PathMap

def get? (map : PathMap) (names : List String) : Option Descriptor :=
  map.entries.lookup names

def single (top : Descriptor) (directory : top.kind = .directory) : PathMap where
  entries := AList.insert [] top ∅
  top := ⟨top, AList.lookup_insert _, directory⟩
  closed := by
    intro names name entry found
    rw [AList.lookup_insert_ne (by simp), AList.lookup_empty] at found
    cases found

theorem get?_single (top : Descriptor) (directory : top.kind = .directory) (names : List String) :
    (single top directory).get? names = if names = [] then some top else none := by
  unfold single get?
  split
  · rename_i same
    rw [same, AList.lookup_insert]
  · rename_i differs
    rw [AList.lookup_insert_ne differs, AList.lookup_empty]

/-- A list of names at which nothing is, in a directory. -/
structure Vacant (map : PathMap) (names : List String) (name : String) : Prop where
  above : ∃ entry, map.get? names = some entry ∧ entry.kind = .directory
  free : map.get? (names ++ [name]) = none

def insert (map : PathMap) (names : List String) (name : String) (entry : Descriptor)
    (vacant : map.Vacant names name) : PathMap where
  entries := map.entries.insert (names ++ [name]) entry
  top := by
    obtain ⟨top, found, directory⟩ := map.top
    refine ⟨top, ?_, directory⟩
    rwa [AList.lookup_insert_ne (by simp)]
  closed := by
    intro names' name' entry' found
    have kept {above : Descriptor} (old : map.entries.lookup names' = some above) :
        (map.entries.insert (names ++ [name]) entry).lookup names' = some above := by
      rw [AList.lookup_insert_ne, old]
      rintro rfl
      exact absurd (old.symm.trans vacant.free) (by simp)
    by_cases here : names' ++ [name'] = names ++ [name]
    · obtain ⟨rfl, -⟩ := List.append_inj' here rfl
      obtain ⟨above, old, directory⟩ := vacant.above
      exact ⟨above, kept old, directory⟩
    · rw [AList.lookup_insert_ne here] at found
      obtain ⟨above, old, directory⟩ := map.closed found
      exact ⟨above, kept old, directory⟩

theorem get?_insert (map : PathMap) (vacant : map.Vacant names name) (entry : Descriptor)
    (others : List String) : (map.insert names name entry vacant).get? others =
      if others = names ++ [name] then some entry else map.get? others := by
  unfold insert get?
  split
  · rename_i same
    rw [same, AList.lookup_insert]
  · rename_i differs
    rw [AList.lookup_insert_ne differs]

/-- Why the first names of a path do not lead to a directory. -/
def barrier? (map : PathMap) (path : Path) (depth : Nat) : Option FsError :=
  match map.get? (path.segments.take depth) with
  | none => some (.noSuchFile (path.displayUpTo depth))
  | some entry =>
    if entry.kind = .directory then none else some (.notADirectory (path.displayUpTo depth))

/-- Why there is no way down a path, as the shallowest of the entries above its end has it. -/
def obstacle? (map : PathMap) (path : Path) : Option FsError :=
  (List.range path.segments.length).findSome? (map.barrier? path)

section Way

variable {map : PathMap} {path : Path}

theorem barrier?_of_missing (missing : map.get? (path.segments.take depth) = none) :
    map.barrier? path depth = some (.noSuchFile (path.displayUpTo depth)) := by
  simp [barrier?, missing]

theorem barrier?_of_leaf (found : map.get? (path.segments.take depth) = some entry)
    (leaf : entry.kind ≠ .directory) :
    map.barrier? path depth = some (.notADirectory (path.displayUpTo depth)) := by
  simp [barrier?, found, leaf]

theorem barrier?_eq_none_iff : map.barrier? path depth = none ↔
    ∃ entry, map.get? (path.segments.take depth) = some entry ∧ entry.kind = .directory := by
  unfold barrier?
  cases map.get? (path.segments.take depth) with
  | none => simp
  | some entry => by_cases directory : entry.kind = .directory <;> simp [directory]

theorem obstacle?_eq_none_iff :
    map.obstacle? path = none ↔ ∀ depth < path.segments.length, map.barrier? path depth = none := by
  simp [obstacle?]

theorem obstacle?_of_barrier (above : depth < path.segments.length)
    (clear : ∀ earlier < depth, map.barrier? path earlier = none)
    (barred : map.barrier? path depth = some error) : map.obstacle? path = some error := by
  obtain ⟨rest, same⟩ := Nat.exists_eq_add_of_lt above
  have split : List.range path.segments.length =
      List.range depth ++ depth :: (List.range rest).map (depth + ·.succ) := by
    rw [same, Nat.add_assoc, List.range_add, List.range_succ_eq_map]
    simp
  exact List.findSome?_eq_some_iff.mpr
    ⟨_, _, _, split, barred, fun earlier member => clear earlier (List.mem_range.mp member)⟩

end Way

def lookUp (map : PathMap) (path : Path) : Except FsError Descriptor :=
  match map.obstacle? path with
  | some error => .error error
  | none =>
    match map.get? path.segments with
    | some entry => .ok entry
    | none => .error (.noSuchFile path.display)

/-- A path without obstacles, at whose end there is nothing, ends in a directory. -/
theorem vacant_of_clear {map : PathMap} {path : ElementPath}
    (clear : map.obstacle? (.element path) = none) (free : map.get? path.segments = none) :
    map.Vacant path.segments.dropLast path.lastSegment := by
  have inside : path.segments.length - 1 < path.segments.length :=
    Nat.sub_one_lt_of_lt (List.length_pos_of_ne_nil path.segments_ne_nil)
  have parent := obstacle?_eq_none_iff.mp clear _ inside
  refine ⟨?_, ?_⟩
  · rw [List.dropLast_eq_take]
    exact barrier?_eq_none_iff.mp parent
  · rw [ElementPath.lastSegment, List.dropLast_concat_getLast path.segments_ne_nil, free]

def create (map : PathMap) (path : Path) (entry : Descriptor) : Except FsError PathMap :=
  match path with
  | .root root => .error (.invalidArgument (.notCreatable root.display))
  | .element path =>
    match clear : map.obstacle? (.element path) with
    | some error => .error error
    | none =>
      match free : map.get? path.segments with
      | some _ => .error (.alreadyExists path.display)
      | none => .ok (map.insert path.segments.dropLast path.lastSegment entry
          (vacant_of_clear clear free))

section Creation

variable {map : PathMap} {path : ElementPath}

theorem create_of_obstacle (barred : map.obstacle? (.element path) = some error)
    (entry : Descriptor) : map.create (.element path) entry = .error error := by
  simp only [create]
  split
  · rename_i error' barred'
    exact congrArg _ (Option.some.inj (barred'.symm.trans barred))
  · rename_i clear
    cases clear.symm.trans barred

theorem create_of_taken (clear : map.obstacle? (.element path) = none)
    (taken : map.get? path.segments = some other) (entry : Descriptor) :
    map.create (.element path) entry = .error (.alreadyExists path.display) := by
  simp only [create]
  split
  · rename_i barred
    cases clear.symm.trans barred
  · split
    · rfl
    · rename_i free
      cases taken.symm.trans free

theorem create_of_free (clear : map.obstacle? (.element path) = none)
    (free : map.get? path.segments = none) (entry : Descriptor) :
    map.create (.element path) entry = .ok (map.insert path.segments.dropLast path.lastSegment entry
      (vacant_of_clear clear free)) := by
  simp only [create]
  split
  · rename_i barred
    cases clear.symm.trans barred
  · split
    · rename_i taken
      cases free.symm.trans taken
    · rfl

end Creation

/-- The last of a list of names, if the others are the given ones. -/
def nameBelow? (names key : List String) : Option String :=
  key.getLast?.filter fun _ => key.dropLast = names

/-- The names of what is directly below a list of names, in order. -/
def namesBelow (map : PathMap) (names : List String) : List String :=
  (map.entries.keys.filterMap (nameBelow? names)).mergeSort (· ≤ ·)

theorem nameBelow?_eq_some_iff {key : List String} :
    nameBelow? names key = some name ↔ key = names ++ [name] := by
  simp only [nameBelow?, Option.filter_eq_some_iff, decide_eq_true_eq]
  constructor
  · rintro ⟨last, rfl⟩
    exact (List.dropLast_append_getLast? _ last).symm
  · rintro rfl
    simp

theorem mem_namesBelow {map : PathMap} :
    name ∈ map.namesBelow names ↔ (map.get? (names ++ [name])).isSome = true := by
  simp only [namesBelow, List.mem_mergeSort, List.mem_filterMap, nameBelow?_eq_some_iff,
    exists_eq_right, get?, AList.lookup_isSome, AList.mem_keys]

theorem nodup_namesBelow (map : PathMap) (names : List String) : (map.namesBelow names).Nodup := by
  refine (List.mergeSort_perm _ _).nodup_iff.mpr (map.entries.keys_nodup.filterMap ?_)
  intro key key' name last last'
  rw [nameBelow?_eq_some_iff.mp last, nameBelow?_eq_some_iff.mp last']

end PathMap

end CoupledFs
