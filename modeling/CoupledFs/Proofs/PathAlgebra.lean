import CoupledFs.Proofs.PathText
import CoupledFs.Proofs.Upkeep

/-! The algebra of paths: parents, texts, anchoring and joining. All of them are settled by the root and
the names that a path is made of. -/

namespace CoupledFs

namespace Path

variable {anchor : Option Root} {names : List String} {separator : Char} {path : Path}

theorem ofParts_eq_none_iff : ofParts anchor names separator = none ↔ anchor = none ∧ names = [] := by
  cases names <;> simp [ofParts]

theorem exists_ofParts (given : anchor = none → names ≠ []) (separator : Char) :
    ∃ path, ofParts anchor names separator = some path := by
  apply Option.ne_none_iff_exists'.mp
  intro missing
  obtain ⟨rootless, nameless⟩ := ofParts_eq_none_iff.mp missing
  exact given rootless nameless

/-- The path without its last names: its parent, taken so many times. -/
def ancestor? : Nat → Path → Option Path
  | 0, path => some path
  | count + 1, path => path.parent?.bind (ancestor? count)

theorem getElem?_parents (path : Path) (count : Nat) :
    path.parents[count]? = path.ancestor? (count + 1) := by
  induction count generalizing path with
  | zero =>
    cases above : path.parent? with
    | none => simp [parents_of_orphan above, ancestor?, above]
    | some parent => simp [parents_of_parent? above, ancestor?, above]
  | succ count ih =>
    rw [ancestor?]
    cases above : path.parent? with
    | none => simp [parents_of_orphan above]
    | some parent => rw [parents_of_parent? above, List.getElem?_cons_succ, ih, Option.bind_some]

theorem root?_of_parent? {parent : Path} (above : path.parent? = some parent) :
    parent.root? = path.root? := by
  cases path with
  | root r => cases above
  | element e => exact root?_of_ofParts above

theorem toAbsolute_of_isAbsolute (absolute : path.isAbsolute = true) (default : Root) :
    path.toAbsolute default = path := by
  cases path with
  | root r => rfl
  | element e =>
    obtain ⟨root, rooted⟩ := Option.isSome_iff_exists.mp absolute
    have rooted : e.root = some root := rooted
    simp only [toAbsolute, rooted]

theorem displayUpTo_of_length_le {length : Nat} (beyond : path.segments.length ≤ length) :
    path.displayUpTo length = path.display := by
  cases path with
  | root r => rfl
  | element e =>
    have whole : e.segments.length ≤ length := beyond
    rw [displayUpTo, ElementPath.displayUpTo, List.take_of_length_le whole, ← e.display_eq, display]

theorem ofParts_of_join (path : Path) (name : String) :
    ofParts path.root? (path.segments ++ [name]) ((path.root?.map Root.separator).getD '/') =
      some (path.join name) := by
  obtain ⟨first, rest, names⟩ : ∃ first rest, path.segments ++ [name] = first :: rest :=
    List.exists_cons_of_ne_nil (by simp)
  simp only [join, names, ofParts]

theorem lastSegment?_join (path : Path) (name : String) : (path.join name).lastSegment? = some name := by
  simp [join, lastSegment?, ElementPath.lastSegment]

section Parts

variable (made : ofParts anchor names separator = some path)

include made

/-! ### Parents -/

theorem parent?_of_nameless (nameless : names = []) : path.parent? = none := by
  subst nameless
  obtain ⟨root, -, rfl⟩ := Option.map_eq_some_iff.mp made
  rfl

theorem parent?_of_ofParts (some_name : names ≠ []) :
    path.parent? = ofParts anchor names.dropLast separator := by
  cases names with
  | nil => exact absurd rfl some_name
  | cons first rest =>
    cases made
    rfl

theorem ancestor?_of_ofParts (count : Nat) : path.ancestor? count =
    if count ≤ names.length then ofParts anchor (names.take (names.length - count)) separator
    else none := by
  induction count generalizing names path with
  | zero => simp [ancestor?, made]
  | succ count ih =>
    rw [ancestor?]
    by_cases nameless : names = []
    · rw [parent?_of_nameless made nameless]
      simp [nameless]
    · have some_name := List.length_pos_iff.mpr nameless
      rw [parent?_of_ofParts made nameless]
      cases above : ofParts anchor names.dropLast separator with
      | some parent =>
        have front : names.dropLast.take (names.length - 1 - count) =
            names.take (names.length - (count + 1)) := by
          rw [List.dropLast_eq_take, List.take_take]
          congr 1
          omega
        rw [Option.bind_some, ih above, List.length_dropLast, front]
        exact if_congr (by omega) rfl rfl
      | none =>
        -- A single name without a root has no parent, and is cut off whole by the first step.
        obtain ⟨rfl, single⟩ := ofParts_eq_none_iff.mp above
        have alone := congrArg List.length single
        rw [List.length_dropLast, List.length_nil] at alone
        have cut : names.take (names.length - (count + 1)) = [] := by
          rw [List.take_eq_nil_iff]
          omega
        simp [cut, ofParts]

/-- A path with a root has as many ancestors as it has names, and one without a root has one less. -/
theorem exists_ancestor?_iff (count : Nat) : (∃ ancestor, path.ancestor? count = some ancestor) ↔
    if path.isAbsolute then count ≤ names.length else count < names.length := by
  rw [ancestor?_of_ofParts made, isAbsolute, root?_of_ofParts made]
  by_cases within : count ≤ names.length
  · rw [if_pos within, ← Option.isSome_iff_exists, ← Option.ne_none_iff_isSome, ne_eq,
      ofParts_eq_none_iff, List.take_eq_nil_iff]
    cases anchor with
    | some root => simpa using within
    | none =>
      rw [if_neg (by simp), ← List.length_eq_zero_iff, eq_self, true_and]
      omega
  · rw [if_neg within]
    constructor
    · rintro ⟨ancestor, none_is_some⟩
      cases none_is_some
    · intro reached
      split at reached <;> omega

theorem display_of_ancestor {ancestor : Path} {count : Nat}
    (above : path.ancestor? count = some ancestor) : ancestor.root? = anchor ∧
      ancestor.segments = names.take (names.length - count) ∧
      ancestor.display = path.displayUpTo (names.length - count) := by
  rw [ancestor?_of_ofParts made] at above
  split at above
  · refine ⟨root?_of_ofParts above, segments_of_ofParts above, ?_⟩
    rw [display_of_ofParts above]
    cases names with
    | nil =>
      obtain ⟨root, rfl, rfl⟩ := Option.map_eq_some_iff.mp made
      simp [displayUpTo]
    | cons first rest =>
      cases made
      rfl
  · cases above

/-! ### Anchoring -/

theorem toAbsolute_of_ofParts (default : Root) :
    ofParts (some (anchor.getD default)) names separator = some (path.toAbsolute default) := by
  cases names with
  | nil =>
    obtain ⟨root, rfl, rfl⟩ := Option.map_eq_some_iff.mp made
    rfl
  | cons first rest =>
    cases made
    cases anchor <;> rfl

theorem isAbsolute_toAbsolute (default : Root) : (path.toAbsolute default).isAbsolute = true := by
  rw [isAbsolute, root?_of_ofParts (toAbsolute_of_ofParts made default)]
  rfl

/-! ### Joining -/

section Separated

variable {root : Root} (rooted : anchor = some root) (separated : separator = root.separator)

include rooted separated

theorem parent?_join (name : String) : (path.join name).parent? = some path := by
  have joined := ofParts_of_join path name
  rw [root?_of_ofParts made, segments_of_ofParts made, rooted] at joined
  rw [parent?_of_ofParts joined (by simp), List.dropLast_concat, ← made, rooted, separated]
  rfl

theorem join_parent? {parent : Path} (above : path.parent? = some parent)
    (named : path.lastSegment? = some last) : parent.join last = path := by
  have segments := segments_of_parent above named
  have anchored : parent.root? = some root := by
    rw [root?_of_parent? above, root?_of_ofParts made, rooted]
  have joined := ofParts_of_join parent last
  rw [anchored, ← segments, segments_of_ofParts made] at joined
  rw [rooted, separated] at made
  exact Option.some.inj (joined.symm.trans made)

end Separated

/-- The parents of a path with a root end in the bare root, unless the path is the bare root itself. -/
theorem getLast?_parents {root : Root} (rooted : anchor = some root) :
    (path :: path.parents).getLast? = some (.root root) := by
  subst rooted
  generalize size : names.length = count
  induction count generalizing names path with
  | zero =>
    have nameless := List.length_eq_zero_iff.mp size
    have orphan := parent?_of_nameless made nameless
    subst nameless
    cases made
    rw [parents_of_orphan orphan, List.getLast?_singleton]
  | succ count ih =>
    have some_name : names ≠ [] := List.ne_nil_of_length_eq_add_one size
    have shorter : names.dropLast.length = count := by simp [size]
    obtain ⟨parent, made'⟩ := @exists_ofParts (some root) names.dropLast nofun separator
    have above := (parent?_of_ofParts made some_name).trans made'
    rw [parents_of_parent? above, List.getLast?_cons_cons, ih made' shorter]

end Parts

/-- How the operations on a path go together that is made of a root, names and a separator. -/
structure Lawful (path : Path) (anchor : Option Root) (names : List String) (separator : Char) :
    Prop where
  /-- A parent can be taken once for every name, but for the last name of a path without a root. -/
  reaches : ∀ count, (∃ ancestor, path.ancestor? count = some ancestor) ↔
    if path.isAbsolute then count ≤ names.length else count < names.length
  ancestor : ∀ count ancestor, path.ancestor? count = some ancestor → ancestor.root? = anchor ∧
    ancestor.segments = names.take (names.length - count) ∧
    ancestor.display = path.displayUpTo (names.length - count)
  whole : ∀ length, names.length ≤ length → path.displayUpTo length = path.display
  lineage : ∀ count, path.parents[count]? = path.ancestor? (count + 1)
  /-- Going up ends at the bare root. -/
  top : ∀ root, anchor = some root → (path :: path.parents).getLast? = some (.root root)
  settled : ∀ first second, (path.toAbsolute first).toAbsolute second = path.toAbsolute first
  kept : path.isAbsolute = true → ∀ default, path.toAbsolute default = path
  commutes : 2 ≤ names.length → ∀ default, ∃ parent, path.parent? = some parent ∧
    (path.toAbsolute default).parent? = some (parent.toAbsolute default)
  /-- A name can be joined to a path that is separated as its root prescribes, and taken off again. -/
  joined : ∀ root, anchor = some root → separator = root.separator → ∀ name,
    (path.join name).parent? = some path ∧ (path.join name).lastSegment? = some name
  rejoined : ∀ root, anchor = some root → separator = root.separator → names ≠ [] →
    ∃ parent last, path.parent? = some parent ∧ path.lastSegment? = some last ∧
      parent.join last = path

/-- All paths are lawful. -/
theorem lawful_of_ofParts (made : ofParts anchor names separator = some path) :
    path.Lawful anchor names separator where
  reaches := exists_ancestor?_iff made
  ancestor _ _ above := display_of_ancestor made above
  whole _ beyond := displayUpTo_of_length_le (segments_of_ofParts made ▸ beyond)
  lineage := getElem?_parents path
  top _ rooted := getLast?_parents made rooted
  settled first second := toAbsolute_of_isAbsolute (isAbsolute_toAbsolute made first) second
  kept := toAbsolute_of_isAbsolute
  commutes several default := by
    have some_name : names ≠ [] := List.ne_nil_of_length_pos (by omega)
    have shorter : names.dropLast ≠ [] := by
      apply List.ne_nil_of_length_pos
      rw [List.length_dropLast]
      omega
    obtain ⟨parent, made'⟩ := exists_ofParts (fun _ => shorter) separator
    refine ⟨parent, (parent?_of_ofParts made some_name).trans made', ?_⟩
    have anchored := toAbsolute_of_ofParts made default
    rw [parent?_of_ofParts anchored some_name, toAbsolute_of_ofParts made' default]
  joined _ rooted separated name :=
    ⟨parent?_join made rooted separated name, lastSegment?_join path name⟩
  rejoined root rooted separated some_name := by
    have segments : path.segments = names.dropLast ++ [names.getLast some_name] := by
      rw [segments_of_ofParts made, List.dropLast_concat_getLast]
    obtain ⟨last, parent, named, above⟩ :=
      parent_of_segments ((root?_of_ofParts made).trans rooted) segments
    exact ⟨parent, last, above, named, join_parent? made rooted separated above named⟩

/-- Names may be empty, look like a way up or hold the separator, and the root may have any name. -/
theorem lawful_of_ofParts_with_odd_names :
    let root : Root := ⟨"a|", '|'⟩
    let path : Path := .element ⟨some root, ["", "b|c", ".."], '|', by simp⟩
    ofParts (some root) ["", "b|c", ".."] '|' = some path ∧
      path.Lawful (some root) ["", "b|c", ".."] '|' ∧
      path.displayUpTo 4 = path.display ∧ path.parents[2]? = some (.root root) ∧
      (path.join "").parent? = some path := by
  intro root path
  have made : ofParts (some root) ["", "b|c", ".."] '|' = some path := rfl
  have lawful := lawful_of_ofParts made
  have third : path.ancestor? 3 = some (.root root) := rfl
  exact ⟨made, lawful, lawful.whole 4 (by decide), (lawful.lineage 2).trans third,
    (lawful.joined root rfl rfl "").1⟩

end Path

end CoupledFs
