import CoupledFs.Workload.Size
import CoupledFs.Workload.Task
import Mathlib

/-! What workers ask for as long as everything comes out as expected: the directories of a full
tree, level by level, and after each a look at it and at everything above it. -/

namespace CoupledFs.Workload

/-- What a worker asks for, by the names of a place below its root, and how that comes out. -/
inductive Errand where
  /-- A directory is made. -/
  | make (names : List String)
  /-- No directory is made, because nothing can be. -/
  | refuse (names : List String)
  /-- There is something to look at. -/
  | look (names : List String)

/-- The directories that errands make, in order. -/
def makings : List Errand → List (List String)
  | [] => []
  | .make names :: errands => names :: makings errands
  | .refuse _ :: errands | .look _ :: errands => makings errands

/-- A directory is made, and then everything down to it is looked at, the root included. -/
def visit (names : List String) : List Errand :=
  .make names :: ((List.range (names.length + 1)).map names.take).map .look

theorem makings_append (errands more : List Errand) :
    makings (errands ++ more) = makings errands ++ makings more := by
  induction errands with
  | nil => rfl
  | cons errand errands ih => cases errand <;> simp [makings, ih]

theorem makings_looks (places : List (List String)) : makings (places.map .look) = [] := by
  induction places with
  | nil => rfl
  | cons names places ih => exact ih

theorem makings_visits (todo : List (List String)) : makings (todo.flatMap visit) = todo := by
  induction todo with
  | nil => rfl
  | cons names todo ih =>
    rw [List.flatMap_cons, visit, List.cons_append, makings, makings_append, makings_looks, ih,
      List.nil_append]

/-- A task that asks for some things in order, as long as each comes out as expected, and then is
done with a tally. -/
inductive Follows (worker : Worker) (total : Tally) : Task → List Errand → Prop where
  | done : Follows worker total (.done total) []
  | make {names : List String} {next : Except FsError Unit → Task} {errands : List Errand}
      (later : Follows worker total (next (.ok ())) errands) :
      Follows worker total (.create (worker.path names) next) (.make names :: errands)
  | refuse {names : List String} {next : Except FsError Unit → Task} {errands : List Errand}
      (later : Follows worker total (next (.error .readOnly)) errands) :
      Follows worker total (.create (worker.path names) next) (.refuse names :: errands)
  | look {names : List String} {next : Except FsError BasicAttributes → Task}
      {errands : List Errand}
      (later : ∀ attributes, Follows worker total (next (.ok attributes)) errands) :
      Follows worker total (.read (worker.path names) next) (.look names :: errands)

/-- The tally after more directories were made and looked at, each with everything above it. -/
def Tally.having (tally : Tally) (made : List (List String)) : Tally :=
  { tally with
    created := tally.created + made.length
    reads := tally.reads + (made.map fun names => names.length + 1).sum }

theorem Tally.having_append (tally : Tally) (made more : List (List String)) :
    tally.having (made ++ more) = (tally.having made).having more := by
  simp [having, Nat.add_assoc]

namespace Worker

variable {worker : Worker}

/-- The directories of the given level and of as many levels below it as are left. -/
def planned (worker : Worker) : Nat → List (List String) → List (List String)
  | 0, level => level
  | left + 1, level => level ++ worker.planned left (level.flatMap worker.childrenOf)

theorem planned_nil (worker : Worker) (left : Nat) : worker.planned left [] = [] := by
  induction left with
  | zero => rfl
  | succ left ih => exact ih

theorem follows_readAll {total : Tally} {next : Tally → Task} (places : List (List String))
    (tally : Tally) (later : Follows worker total (next { tally with reads := tally.reads + places.length })
      errands) :
    Follows worker total (readAll tally next (places.map worker.path))
      (places.map .look ++ errands) := by
  induction places generalizing tally with
  | nil => exact later
  | cons names places ih =>
    refine .look fun _ => ih { tally with reads := tally.reads + 1 } ?_
    rw [List.length_cons, ← Nat.add_assoc, Nat.add_right_comm] at later
    exact later

theorem follows_makeLevel {total : Tally} {next : List (List String) → Tally → Task} {deeper : Bool}
    (level below : List (List String)) (tally : Tally)
    (later : Follows worker total (next
      (below.reverse ++ if deeper then level.flatMap worker.childrenOf else [])
      (tally.having level)) errands) :
    Follows worker total (worker.makeLevel deeper below tally next level)
      (level.flatMap visit ++ errands) := by
  induction level generalizing below tally with
  | nil => simpa [makeLevel, Tally.having] using later
  | cons names level ih =>
    rw [List.flatMap_cons, List.append_assoc, visit, List.cons_append]
    refine .make ?_
    dsimp only
    have paths :
        (List.range (names.length + 1)).map (fun length => worker.path (names.take length)) =
          ((List.range (names.length + 1)).map names.take).map worker.path := by
      rw [List.map_map]
      rfl
    rw [paths]
    refine follows_readAll _ _ (ih _ _ ?_)
    rw [← List.singleton_append, Tally.having_append] at later
    cases deeper with
    | false => simpa [Tally.having] using later
    | true => simpa [Tally.having] using later

theorem follows_makeLevels (left : Nat) (level : List (List String)) (tally : Tally) :
    Follows worker (tally.having (worker.planned left level)) (worker.makeLevels left level tally)
      ((worker.planned left level).flatMap visit) := by
  induction left generalizing level tally with
  | zero =>
    rw [← List.append_nil (List.flatMap ..)]
    exact follows_makeLevel level [] tally .done
  | succ left ih =>
    rw [planned, List.flatMap_append, Tally.having_append]
    refine follows_makeLevel level [] tally ?_
    simp only [List.reverse_nil, List.nil_append, if_true]
    split
    · rename_i nothing
      rw [List.isEmpty_iff.mp nothing, planned_nil]
      exact .done
    · exact ih _ _

/-- The directories that a worker makes: one of its own with `depth` levels below it. -/
def directories (worker : Worker) (depth : Nat) : List (List String) :=
  worker.planned depth [[worker.top]]

theorem follows_task (worker : Worker) (depth : Nat) :
    Follows worker (({} : Tally).having (worker.directories depth)) (worker.task depth)
      ((worker.directories depth).flatMap visit) :=
  follows_makeLevels depth _ {}

theorem follows_task_of_readOnly (worker : Worker) (depth : Nat) :
    Follows worker (({} : Tally).addError .readOnly) (worker.task depth)
      [.refuse [worker.top]] := by
  cases depth <;> exact .refuse .done

section Count

variable (worker : Worker)

private theorem sum_map_of_const {α : Type} {items : List α} {size : α → Nat} {each : Nat}
    (same : ∀ item ∈ items, size item = each) : (items.map size).sum = items.length * each := by
  rw [List.map_congr_left same, List.map_const', List.sum_replicate_nat]

theorem length_nextLevel (level : List (List String)) :
    (level.flatMap worker.childrenOf).length = level.length * worker.fanout := by
  rw [List.length_flatMap]
  exact sum_map_of_const fun names _ => by simp [childrenOf]

theorem length_planned (left : Nat) (level : List (List String)) :
    (worker.planned left level).length =
      level.length * ∑ l ∈ Finset.range (left + 1), worker.fanout ^ l := by
  induction left generalizing level with
  | zero => simp [planned]
  | succ left ih =>
    rw [planned, List.length_append, ih, length_nextLevel, Finset.sum_range_succ' _ (left + 1)]
    simp only [pow_succ', ← Finset.mul_sum, pow_zero]
    ring

/-- On the way to a directory, as many places are looked at as it has names, and the root. -/
theorem sum_planned (left : Nat) {level : List (List String)}
    (same : ∀ names ∈ level, names.length = depth) :
    ((worker.planned left level).map fun names => names.length + 1).sum =
      level.length * ∑ l ∈ Finset.range (left + 1), (depth + l + 1) * worker.fanout ^ l := by
  have here {depth : Nat} {level : List (List String)}
      (same : ∀ names ∈ level, names.length = depth) :
      (level.map fun names => names.length + 1).sum = level.length * (depth + 1) :=
    sum_map_of_const fun names member => congrArg Nat.succ (same names member)
  induction left generalizing level depth with
  | zero => simp [planned, here same]
  | succ left ih =>
    have next : ∀ names ∈ level.flatMap worker.childrenOf, names.length = depth + 1 := by
      intro names member
      simp only [List.mem_flatMap, childrenOf, List.mem_map] at member
      obtain ⟨front, member, i, -, rfl⟩ := member
      simp [same front member]
    have shifted : ∑ l ∈ Finset.range (left + 1), (depth + (l + 1) + 1) * worker.fanout ^ (l + 1) =
        worker.fanout * ∑ l ∈ Finset.range (left + 1), (depth + 1 + l + 1) * worker.fanout ^ l := by
      rw [Finset.mul_sum]
      exact Finset.sum_congr rfl fun l _ => by ring
    rw [planned, List.map_append, List.sum_append, here same, ih next, length_nextLevel,
      Finset.sum_range_succ' _ (left + 1), shifted]
    ring

theorem length_directories (depth : Nat) : (worker.directories depth).length =
    ∑ l ∈ Finset.range (depth + 1), worker.fanout ^ l := by
  rw [directories, length_planned, List.length_singleton, Nat.one_mul]

theorem sum_directories (depth : Nat) :
    ((worker.directories depth).map fun names => names.length + 1).sum =
      ∑ l ∈ Finset.range (depth + 1), (l + 2) * worker.fanout ^ l := by
  have single : ∀ names ∈ [[worker.top]], names.length = 1 := by simp
  rw [directories, worker.sum_planned depth single, List.length_singleton, Nat.one_mul]
  exact Finset.sum_congr rfl fun l _ => by ring

end Count

/-! ### The order in which directories are made -/

/-- Directories of one's own in an order in which they can be made where others were made before:
none is there yet, and what is above each is there before it. -/
def Orderly (top : String) (made : List (List String)) : List (List String) → Prop
  | [] => True
  | names :: todo =>
    names.head? = some top ∧ names ∉ made ∧
      (∀ front, front <+: names → front = [] ∨ front = names ∨ front ∈ made) ∧
      Orderly top (made ++ [names]) todo

/-- A level of directories that can be made next, all of them in any order. -/
structure Frontier (top : String) (made level : List (List String)) : Prop where
  distinct : level.Nodup
  own : ∀ names ∈ level, names.head? = some top
  fresh : ∀ names ∈ level, names ∉ made
  above : ∀ names ∈ level, ∀ front, front <+: names → front = [] ∨ front = names ∨ front ∈ made
  closed : ∀ names ∈ made, ∀ front, front <+: names → front = [] ∨ front ∈ made

section Order

variable {top : String} {made level todo : List (List String)}

theorem frontier_top (top : String) : Frontier top [] [[top]] where
  distinct := List.nodup_singleton _
  own := by simp
  fresh := by simp
  above := by
    intro names member front above
    rw [List.mem_singleton.mp member] at above ⊢
    rcases List.prefix_cons_iff.mp above with rfl | ⟨rest, rfl, nothing⟩
    · exact .inl rfl
    · exact .inr (.inl (by rw [List.prefix_nil.mp nothing]))
  closed := by simp

theorem Frontier.tail (frontier : Frontier top made (names :: level)) :
    Frontier top (made ++ [names]) level where
  distinct := frontier.distinct.of_cons
  own := fun other member => frontier.own other (List.mem_cons_of_mem _ member)
  fresh := by
    intro other member there
    rcases List.mem_append.mp there with old | new
    · exact frontier.fresh other (List.mem_cons_of_mem _ member) old
    · rw [List.mem_singleton.mp new] at member
      exact (List.nodup_cons.mp frontier.distinct).1 member
  above := by
    intro other member front above
    refine (frontier.above other (List.mem_cons_of_mem _ member) front above).imp_right ?_
    exact Or.imp_right (List.mem_append_left _)
  closed := by
    intro other member front above
    rcases List.mem_append.mp member with old | new
    · exact (frontier.closed other old front above).imp_right (List.mem_append_left _)
    · rw [List.mem_singleton.mp new] at above
      rcases frontier.above names List.mem_cons_self front above with root | here | old
      · exact .inl root
      · exact .inr (by simp [here])
      · exact .inr (List.mem_append_left _ old)

theorem Frontier.orderly_append (frontier : Frontier top made level)
    (later : Orderly top (made ++ level) todo) : Orderly top made (level ++ todo) := by
  induction level generalizing made with
  | nil => simpa using later
  | cons names level ih =>
    have member : names ∈ names :: level := List.mem_cons_self
    refine ⟨frontier.own names member, frontier.fresh names member, frontier.above names member, ?_⟩
    exact ih frontier.tail (by simpa using later)

theorem Frontier.next (frontier : Frontier worker.top made level) :
    Frontier worker.top (made ++ level) (level.flatMap worker.childrenOf) := by
  have below {names : List String} (member : names ∈ level.flatMap worker.childrenOf) :
      ∃ front ∈ level, ∃ last, names = front ++ [last] := by
    obtain ⟨front, there, child⟩ := List.mem_flatMap.mp member
    obtain ⟨i, -, rfl⟩ := List.mem_map.mp child
    exact ⟨front, there, _, rfl⟩
  have named {names : List String} (member : names ∈ level) : names ≠ [] := by
    rintro rfl
    cases frontier.own [] member
  refine ⟨?distinct, ?own, ?fresh, ?above, ?closed⟩
  case distinct =>
    refine List.nodup_flatMap.mpr ⟨fun names _ => ?_, frontier.distinct.imp fun differs => ?_⟩
    · refine List.nodup_range.map fun i j same => ?_
      have last := List.singleton_inj.mp (List.append_cancel_left same)
      exact Nat.repr_inj.mp ((String.append_right_inj _).mp last)
    · rw [Function.onFun, List.disjoint_left]
      intro names child child'
      obtain ⟨i, -, rfl⟩ := List.mem_map.mp child
      obtain ⟨j, -, same⟩ := List.mem_map.mp child'
      exact differs (List.append_inj' same rfl).1.symm
  case own =>
    intro names member
    obtain ⟨front, there, last, rfl⟩ := below member
    rw [List.head?_append, frontier.own front there]
    rfl
  case fresh =>
    intro names member there
    obtain ⟨front, level_front, last, rfl⟩ := below member
    have above := List.prefix_append front [last]
    -- Otherwise `front` would have been made before its own level.
    have old : front ∈ made := by
      rcases List.mem_append.mp there with old | new
      · exact (frontier.closed _ old front above).resolve_left (named level_front)
      · rcases frontier.above _ new front above with root | here | old
        · exact absurd root (named level_front)
        · simp at here
        · exact old
    exact frontier.fresh front level_front old
  case above =>
    intro names member front above
    obtain ⟨parent, there, last, rfl⟩ := below member
    rcases List.prefix_concat_iff.mp above with here | above
    · exact .inr (.inl (by simpa using here))
    · rcases frontier.above parent there front above with root | rfl | old
      · exact .inl root
      · exact .inr (.inr (List.mem_append_right _ there))
      · exact .inr (.inr (List.mem_append_left _ old))
  case closed =>
    intro names member front above
    rcases List.mem_append.mp member with old | new
    · exact (frontier.closed names old front above).imp_right (List.mem_append_left _)
    · rcases frontier.above names new front above with root | rfl | old
      · exact .inl root
      · exact .inr (List.mem_append_right _ new)
      · exact .inr (List.mem_append_left _ old)

theorem Frontier.orderly_planned (frontier : Frontier worker.top made level) (left : Nat) :
    Orderly worker.top made (worker.planned left level) := by
  induction left generalizing made level with
  | zero =>
    rw [planned, ← List.append_nil level]
    exact frontier.orderly_append trivial
  | succ left ih => exact frontier.orderly_append (ih frontier.next)

end Order

/-! ### What becomes of errands -/

/-- Errands that come out as expected below a top of one's own, where some directories were made
before. -/
def Feasible (top : String) (readOnly : Bool) (made : List (List String)) : List Errand → Prop
  | [] => True
  | .make names :: errands =>
    readOnly = false ∧ names.head? = some top ∧ names ∉ made ∧
      (names.dropLast = [] ∨ names.dropLast ∈ made) ∧
      Feasible top readOnly (made ++ [names]) errands
  | .refuse _ :: errands => readOnly = true ∧ Feasible top readOnly made errands
  | .look names :: errands => (names = [] ∨ names ∈ made) ∧ Feasible top readOnly made errands

section Feasibility

variable {top : String} {readOnly : Bool} {made todo : List (List String)} {errands : List Errand}

theorem feasible_looks {places : List (List String)}
    (there : ∀ names ∈ places, names = [] ∨ names ∈ made)
    (later : Feasible top readOnly made errands) :
    Feasible top readOnly made (places.map .look ++ errands) := by
  induction places with
  | nil => exact later
  | cons names places ih =>
    exact ⟨there names List.mem_cons_self,
      ih fun other member => there other (List.mem_cons_of_mem _ member)⟩

/-- Directories can be visited in an order in which they can be made. -/
theorem Orderly.feasible (orderly : Orderly top made todo) :
    Feasible top false made (todo.flatMap visit) := by
  induction todo generalizing made with
  | nil => trivial
  | cons names todo ih =>
    obtain ⟨own, fresh, above, later⟩ := orderly
    have parent : names.dropLast = [] ∨ names.dropLast ∈ made := by
      rcases above _ (List.dropLast_prefix names) with root | here | old
      · exact .inl root
      · have lengths := congrArg List.length here
        cases names with
        | nil => cases own
        | cons => simp at lengths
      · exact .inr old
    refine ⟨rfl, own, fresh, parent, feasible_looks ?_ (ih later)⟩
    intro front member
    obtain ⟨length, -, rfl⟩ := List.mem_map.mp member
    rcases above _ (List.take_prefix length names) with root | here | old
    · exact .inl root
    · exact .inr (by simp [here])
    · exact .inr (List.mem_append_left _ old)

theorem Feasible.drop (feasible : Feasible top readOnly made errands) (count : Nat) :
    Feasible top readOnly (made ++ makings (errands.take count)) (errands.drop count) := by
  induction errands generalizing made count with
  | nil => simpa [makings] using feasible
  | cons errand errands ih =>
    cases count with
    | zero => simpa [makings] using feasible
    | succ count =>
      cases errand with
      | make names => simpa [makings] using ih feasible.2.2.2.2 count
      | refuse names => simpa [makings] using ih feasible.2 count
      | look names => simpa [makings] using ih feasible.2 count

theorem Feasible.distinct_makings (feasible : Feasible top readOnly made errands) :
    (makings errands).Nodup ∧ ∀ names ∈ makings errands, names.head? = some top ∧ names ∉ made := by
  induction errands generalizing made with
  | nil => exact ⟨List.nodup_nil, by simp [makings]⟩
  | cons errand errands ih =>
    cases errand with
    | make names =>
      obtain ⟨-, own, fresh, -, later⟩ := feasible
      obtain ⟨distinct, others⟩ := ih later
      refine ⟨List.nodup_cons.mpr ⟨fun again => ?_, distinct⟩, fun other member => ?_⟩
      · exact (others names again).2 (by simp)
      · rcases List.mem_cons.mp member with rfl | member
        · exact ⟨own, fresh⟩
        · exact ⟨(others other member).1, fun old =>
            (others other member).2 (List.mem_append_left _ old)⟩
    | refuse | look => exact ih feasible.2

end Feasibility

/-- What a worker asks for in the course of its work. -/
def errands (worker : Worker) (readOnly : Bool) (depth : Nat) : List Errand :=
  if readOnly then [.refuse [worker.top]] else (worker.directories depth).flatMap visit

def total (worker : Worker) (readOnly : Bool) (depth : Nat) : Tally :=
  if readOnly then ({} : Tally).addError .readOnly
  else ({} : Tally).having (worker.directories depth)

/-- A worker's program does its errands, as long as they come out as expected. -/
theorem follows_errands (worker : Worker) (readOnly : Bool) (depth : Nat) :
    Follows worker (worker.total readOnly depth) (worker.task depth)
      (worker.errands readOnly depth) := by
  cases readOnly with
  | true => exact worker.follows_task_of_readOnly depth
  | false => exact worker.follows_task depth

/-- A worker's errands come out as expected where nothing of its own is there yet. -/
theorem feasible_errands (worker : Worker) (readOnly : Bool) (depth : Nat) :
    Feasible worker.top readOnly [] (worker.errands readOnly depth) := by
  cases readOnly with
  | true => exact ⟨rfl, trivial⟩
  | false => exact ((frontier_top worker.top).orderly_planned depth).feasible

end Worker

end CoupledFs.Workload
