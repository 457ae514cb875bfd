import CoupledFs.Path.Parse
import CoupledFs.Proofs.Dots
import Mathlib.Data.List.Infix
import Mathlib.Logic.Relation
import Mathlib.Order.Minimal
import Mathlib.Order.WellFounded

/-! Components and the names that they come down to, whatever order names are taken back in. Components
come down to names unless they lead out of the place where they start or hold a forbidden name; of
these faults, the one that stands further to the left is reported. -/

namespace CoupledFs.Path

/-- Whether a component is a name, which may be a forbidden one. -/
def leadsDown (component : String) : Bool :=
  component ≠ "" ∧ component ≠ "." ∧ component ≠ ".."

/-- Components with more `..` than names. -/
def Escapes (components : List String) : Prop :=
  components.countP leadsDown < components.count ".."

/-- The shortest beginning of components that escapes. -/
structure EscapesFirst (front components : List String) : Prop where
  isPrefix : front <+: components
  escapes : Escapes front
  shortest : ∀ other, other <+: components → Escapes other → front.length ≤ other.length

/-- Components with a forbidden name that stands before the end of their shortest beginning that
escapes, if any beginning does. -/
def ForbiddenFirst (components : List String) : Prop :=
  ∃ name ∈ components, IsForbidden name ∧
    ((∀ front, front <+: components → ¬ Escapes front) ∨
      ∃ front, EscapesFirst front components ∧ name ∈ front)

/-- One step of simplifying components, at any place: to leave out one that counts for nothing, or to
take a name back. -/
inductive Simplifies : List String → List String → Prop where
  | leaveOut {component : String} (front back : List String)
      (blank : component = "" ∨ component = ".") :
      Simplifies (front ++ component :: back) (front ++ back)
  | takeBack {name : String} (front back : List String) (down : leadsDown name = true) :
      Simplifies (front ++ name :: ".." :: back) (front ++ back)

/-- What is left when components are simplified until nothing can be. -/
structure Leaves (components last : List String) : Prop where
  steps : Relation.ReflTransGen Simplifies components last
  settled : ∀ next, ¬ Simplifies last next

variable {names found components front : List String} {component : String} {fault : DotFault}

theorem leadsDown_iff : leadsDown component = true ↔ IsForbidden component ∨ IsName component := by
  rw [leadsDown, decide_eq_true_iff]
  constructor
  · rintro ⟨nonempty, dot, dots⟩
    by_cases nul : '\x00' ∈ component.toList
    · exact .inl ⟨nonempty, dot, dots, nul⟩
    · exact .inr ⟨nonempty, dot, dots, nul⟩
  · rintro (forbidden | name)
    · exact ⟨forbidden.nonempty, forbidden.not_dot, forbidden.not_dots⟩
    · exact ⟨name.nonempty, name.not_dot, name.not_dots⟩

theorem leadsDown_of_blank (blank : component = "" ∨ component = ".") :
    leadsDown component = false := by
  rcases blank with rfl | rfl <;> rfl

/-! ### Faults -/

theorem length_of_reduceAfter (reduced : reduceAfter names components = .ok found) :
    found.length + components.count ".." = names.length + components.countP leadsDown := by
  induction components generalizing names with
  | nil =>
    cases reduced
    simp
  | cons component components ih =>
    rcases component_cases component with blank | rfl | forbidden | name
    · rw [reduceAfter_of_blank blank] at reduced
      have other : component ≠ ".." := by rcases blank with rfl | rfl <;> decide
      rw [List.count_cons_of_ne other, ih reduced, List.countP_cons_of_neg]
      simp [leadsDown_of_blank blank]
    · cases names with
      | nil =>
        rw [reduceAfter_dots_nil] at reduced
        cases reduced
      | cons name outer =>
        rw [reduceAfter_dots_cons] at reduced
        have later := ih reduced
        rw [List.count_cons_self, List.countP_cons_of_neg (by decide), List.length_cons]
        omega
    · rw [reduceAfter_of_isForbidden forbidden] at reduced
      cases reduced
    · rw [reduceAfter_of_isName name] at reduced
      have later := ih reduced
      rw [List.count_cons_of_ne name.not_dots, List.countP_cons_of_pos (leadsDown_iff.mpr (.inr name))]
      rw [List.length_cons] at later
      omega

/-- Where components are at fault: what stands before comes down to names. -/
inductive FaultAt (names : List String) (components : List String) : DotFault → Prop where
  | escapes {front back : List String} (split : components = front ++ ".." :: back)
      (before : reduceAfter names front = .ok []) : FaultAt names components .escapes
  | forbidden {front back found : List String} {name : String}
      (split : components = front ++ name :: back) (before : reduceAfter names front = .ok found)
      (bad : IsForbidden name) : FaultAt names components (.forbidden name)

theorem FaultAt.cons {before : List String}
    (same : ∀ rest, reduceAfter before (component :: rest) = reduceAfter names rest)
    (later : FaultAt names components fault) : FaultAt before (component :: components) fault := by
  cases later with
  | escapes split reduced =>
    rw [split, ← List.cons_append]
    exact .escapes rfl ((same _).trans reduced)
  | forbidden split reduced bad =>
    rw [split, ← List.cons_append]
    exact .forbidden rfl ((same _).trans reduced) bad

theorem faultAt_of_reduceAfter (failed : reduceAfter names components = .error fault) :
    FaultAt names components fault := by
  induction components generalizing names with
  | nil => cases failed
  | cons component components ih =>
    rcases component_cases component with blank | rfl | forbidden | name
    · have same := reduceAfter_of_blank blank names
      exact (ih ((same components).symm.trans failed)).cons same
    · cases names with
      | nil =>
        rw [reduceAfter_dots_nil] at failed
        cases failed
        exact .escapes (List.nil_append _).symm rfl
      | cons name outer =>
        have same := reduceAfter_dots_cons name outer
        exact (ih ((same components).symm.trans failed)).cons same
    · rw [reduceAfter_of_isForbidden forbidden] at failed
      cases failed
      exact .forbidden (List.nil_append _).symm rfl forbidden
    · have same := reduceAfter_of_isName name names
      exact (ih ((same components).symm.trans failed)).cons same

theorem exists_reduceAfter_of_prefix (isPrefix : front <+: components)
    (reduced : reduceAfter names components = .ok found) :
    ∃ between, reduceAfter names front = .ok between := by
  obtain ⟨back, rfl⟩ := isPrefix
  rw [reduceAfter_append] at reduced
  cases before : reduceAfter names front with
  | error fault =>
    rw [before] at reduced
    cases reduced
  | ok between => exact ⟨between, rfl⟩

theorem not_isForbidden_of_reduceAfter (reduced : reduceAfter names components = .ok found) :
    ∀ name ∈ components, ¬ IsForbidden name := by
  intro name member forbidden
  obtain ⟨front, back, rfl⟩ := List.append_of_mem member
  have isPrefix : front ++ [name] <+: front ++ name :: back := ⟨back, by simp⟩
  obtain ⟨between, upto⟩ := exists_reduceAfter_of_prefix isPrefix reduced
  rw [reduceAfter_append] at upto
  cases before : reduceAfter names front with
  | error fault =>
    rw [before] at upto
    cases upto
  | ok found =>
    rw [before, Except.bind, reduceAfter_of_isForbidden forbidden] at upto
    cases upto

theorem not_escapes_of_reduceDots (reduced : reduceDots components = .ok found)
    (isPrefix : front <+: components) : ¬ Escapes front := by
  obtain ⟨between, upto⟩ := exists_reduceAfter_of_prefix isPrefix reduced
  have counts := length_of_reduceAfter upto
  rw [List.length_nil, Nat.zero_add] at counts
  rw [Escapes]
  omega

theorem escapes_of_reduceDots_nil (reduced : reduceDots front = .ok []) :
    Escapes (front ++ [".."]) := by
  have counts := length_of_reduceAfter reduced
  rw [List.length_nil, Nat.zero_add, Nat.zero_add] at counts
  have up : leadsDown ".." = false := rfl
  simp [Escapes, counts, up]

/-- Just the components that hold no forbidden name and never escape come down to names. -/
theorem exists_reduceDots_iff : (∃ names, reduceDots components = .ok names) ↔
    (∀ name ∈ components, ¬ IsForbidden name) ∧ ∀ front, front <+: components → ¬ Escapes front := by
  constructor
  · rintro ⟨names, reduced⟩
    exact ⟨not_isForbidden_of_reduceAfter reduced, fun _ => not_escapes_of_reduceDots reduced⟩
  · rintro ⟨allowed, inside⟩
    cases reduced : reduceDots components with
    | ok names => exact ⟨names, rfl⟩
    | error fault =>
      cases faultAt_of_reduceAfter reduced with
      | @escapes front back split before =>
        have isPrefix : front ++ [".."] <+: components := ⟨back, by simp [split]⟩
        exact absurd (escapes_of_reduceDots_nil before) (inside _ isPrefix)
      | forbidden split _ bad =>
        exact absurd bad (allowed _ (by simp [split]))

theorem exists_escapesFirst (isPrefix : front <+: components) (escapes : Escapes front) :
    ∃ first, EscapesFirst first components := by
  obtain ⟨first, ⟨isPrefix, escapes⟩, least⟩ := exists_minimalFor_of_wellFoundedLT
    (fun front => front <+: components ∧ Escapes front) List.length ⟨front, isPrefix, escapes⟩
  refine ⟨first, isPrefix, escapes, fun other isPrefix' escapes' => ?_⟩
  rcases Nat.le_total first.length other.length with shorter | longer
  · exact shorter
  · exact least ⟨isPrefix', escapes'⟩ longer

/-- A forbidden name is reported just if it comes before the end of what escapes. -/
theorem forbiddenFirst_iff (failed : reduceDots components = .error fault) :
    ForbiddenFirst components ↔ ∃ name, fault = .forbidden name := by
  cases faultAt_of_reduceAfter failed with
  | @escapes front back split before =>
    have isPrefix : front ++ [".."] <+: components := ⟨back, by simp [split]⟩
    have escapes := escapes_of_reduceDots_nil before
    simp only [reduceCtorEq, exists_false, iff_false]
    rintro ⟨name, -, forbidden, inside | ⟨first, shortest, member⟩⟩
    · exact inside _ isPrefix escapes
    · have within : first <+: front ++ [".."] :=
        List.prefix_of_prefix_length_le shortest.isPrefix isPrefix
          (shortest.shortest _ isPrefix escapes)
      rcases List.mem_append.mp (within.subset member) with early | last
      · exact not_isForbidden_of_reduceAfter before name early forbidden
      · exact forbidden.not_dots (List.mem_singleton.mp last)
  | @forbidden front back found name split before bad =>
    refine iff_of_true ⟨name, by simp [split], bad, ?_⟩ ⟨name, rfl⟩
    by_cases inside : ∀ front, front <+: components → ¬ Escapes front
    · exact .inl inside
    · push Not at inside
      obtain ⟨other, isPrefix, escapes⟩ := inside
      obtain ⟨first, shortest⟩ := exists_escapesFirst isPrefix escapes
      refine .inr ⟨first, shortest, ?_⟩
      -- What stands before the name does not escape, so what escapes goes beyond it.
      have beyond : front ++ [name] <+: first := by
        have isPrefix' : front ++ [name] <+: components := ⟨back, by simp [split]⟩
        refine List.prefix_of_prefix_length_le isPrefix' shortest.isPrefix ?_
        rw [List.length_append, List.length_singleton]
        by_contra short
        have within : first <+: front := List.prefix_of_prefix_length_le shortest.isPrefix
          ⟨name :: back, split.symm⟩ (by omega)
        exact not_escapes_of_reduceDots before within shortest.escapes
      exact beyond.subset (by simp)

/-! ### Other orders -/

/-- Every order of simplifying comes to an end, since each step makes the components fewer. -/
theorem wellFounded_simplifies : WellFounded fun next before => Simplifies before next := by
  apply Subrelation.wf (r := InvImage (· < ·) List.length)
  · intro next before step
    cases step with
    | leaveOut front back _ => simp [InvImage]
    | takeBack front back _ =>
      simp only [InvImage, List.length_append, List.length_cons]
      omega
  · exact InvImage.wf List.length Nat.lt_wfRel.wf

/-- Simplifying components does not change what they come down to. -/
theorem reduceDots_of_simplifies {next : List String} (step : Simplifies components next)
    (reduced : reduceDots components = .ok found) : reduceDots next = .ok found := by
  cases step with
  | leaveOut front back blank =>
    rw [← reduced, reduceDots, reduceDots, reduceAfter_append, reduceAfter_append]
    congr 1
    funext between
    exact (reduceAfter_of_blank blank _ _).symm
  | @takeBack name front back down =>
    have allowed := not_isForbidden_of_reduceAfter reduced name (by simp)
    have isName := (leadsDown_iff.mp down).resolve_left allowed
    rw [← reduced, reduceDots, reduceDots, reduceAfter_append, reduceAfter_append]
    congr 1
    funext between
    rw [reduceAfter_of_isName isName, reduceAfter_dots_cons]

theorem reduceDots_of_steps {last : List String}
    (steps : Relation.ReflTransGen Simplifies components last)
    (reduced : reduceDots components = .ok found) : reduceDots last = .ok found := by
  induction steps with
  | refl => exact reduced
  | tail _ step ih => exact reduceDots_of_simplifies step ih

/-- Reducing components from left to right is one way of simplifying them. -/
theorem steps_of_reduceAfter (down : ∀ name ∈ names, leadsDown name = true)
    (reduced : reduceAfter names components = .ok found) :
    Relation.ReflTransGen Simplifies (names.reverse ++ components) found := by
  induction components generalizing names with
  | nil =>
    cases reduced
    simpa using .refl
  | cons component components ih =>
    rcases component_cases component with blank | rfl | forbidden | name
    · rw [reduceAfter_of_blank blank] at reduced
      exact .head (.leaveOut names.reverse components blank) (ih down reduced)
    · cases names with
      | nil =>
        rw [reduceAfter_dots_nil] at reduced
        cases reduced
      | cons name outer =>
        rw [reduceAfter_dots_cons] at reduced
        have later := ih (fun other member => down other (List.mem_cons_of_mem name member)) reduced
        rw [List.reverse_cons, List.append_assoc, List.singleton_append]
        exact .head (.takeBack outer.reverse components (down name List.mem_cons_self)) later
    · rw [reduceAfter_of_isForbidden forbidden] at reduced
      cases reduced
    · rw [reduceAfter_of_isName name] at reduced
      have later := ih (List.forall_mem_cons.mpr ⟨leadsDown_iff.mpr (.inr name), down⟩) reduced
      rwa [List.reverse_cons, List.append_assoc, List.singleton_append] at later

theorem settled_of_names (proper : ∀ name ∈ found, IsName name) (next : List String) :
    ¬ Simplifies found next := by
  intro step
  cases step with
  | @leaveOut component front back blank =>
    have name := proper component (by simp)
    exact blank.elim name.nonempty name.not_dot
  | takeBack front back _ => exact (proper ".." (by simp)).not_dots rfl

theorem names_of_settled (settled : ∀ next, ¬ Simplifies components next)
    (reduced : reduceDots components = .ok found) : ∀ name ∈ components, IsName name := by
  have present (component : String) (member : component ∈ components) :
      ¬ (component = "" ∨ component = ".") := by
    intro blank
    obtain ⟨front, back, rfl⟩ := List.append_of_mem member
    exact settled _ (.leaveOut front back blank)
  have downward : ".." ∉ components := by
    intro member
    -- Before the first `..`, there is nothing that it could take back.
    obtain ⟨front, back, rfl, before⟩ := List.eq_append_cons_of_mem member
    cases front using List.reverseRecOn with
    | nil =>
      rw [List.nil_append, reduceDots, reduceAfter_dots_nil] at reduced
      cases reduced
    | append_singleton front last =>
      have down : leadsDown last = true := by
        have nonblank := not_or.mp (present last (by simp))
        have other : last ≠ ".." := by
          rintro rfl
          exact before (by simp)
        exact decide_eq_true ⟨nonblank.1, nonblank.2, other⟩
      rw [List.append_assoc, List.singleton_append] at settled
      exact settled _ (.takeBack front back down)
  intro name member
  rcases component_cases name with blank | rfl | forbidden | isName
  · exact absurd blank (present name member)
  · exact absurd member downward
  · exact absurd forbidden (not_isForbidden_of_reduceAfter reduced name member)
  · exact isName

/-- Names are what is left of the components that come down to them, in whatever order these are
simplified. -/
theorem leaves_iff_of_reduceDots {last : List String} (reduced : reduceDots components = .ok found) :
    Leaves components last ↔ last = found := by
  constructor
  · rintro ⟨steps, settled⟩
    have reduced' := reduceDots_of_steps steps reduced
    have names := names_of_settled settled reduced'
    exact Except.ok.inj ((reduceDots_of_names names).symm.trans reduced')
  · rintro rfl
    exact ⟨steps_of_reduceAfter (by simp) reduced, settled_of_names (isName_of_reduceDots reduced)⟩

/-- Components come down to names if and only if no name in them is forbidden and no beginning of them
holds more `..` than names. The names are what is left of the components, however far they have been
simplified already and in whatever order that goes on, and more components are reduced after them.
Otherwise the fault is a forbidden name if one stands before the end of the shortest beginning that
escapes, or if none does, and that the components escape if not. -/
theorem reduceDots_exact (components : List String) :
    ((∃ names, reduceDots components = .ok names) ↔
        (∀ name ∈ components, leadsDown name = true → '\x00' ∉ name.toList) ∧
          ∀ front, front <+: components → front.count ".." ≤ front.countP leadsDown) ∧
      WellFounded (fun next before => Simplifies before next) ∧
      (∀ names, reduceDots components = .ok names →
        (∀ between, Relation.ReflTransGen Simplifies components between →
          ∀ last, Leaves between last ↔ last = names) ∧
        ∀ more, reduceDots (components ++ more) = reduceAfter names.reverse more) ∧
      ∀ fault, reduceDots components = .error fault → ∀ text,
        ((fault.toError text).kind = .invalidName ↔ ForbiddenFirst components) ∧
          ((fault.toError text).kind = .invalidArgument ↔ ¬ ForbiddenFirst components) := by
  refine ⟨?succeeds, wellFounded_simplifies, ?names, ?fails⟩
  case succeeds =>
    rw [exists_reduceDots_iff]
    simp only [Escapes, Nat.not_lt]
    refine and_congr_left fun _ => forall₂_congr fun name _ => ?_
    constructor
    · intro allowed down nul
      exact ((leadsDown_iff.mp down).resolve_left allowed).without_nul nul
    · intro clear forbidden
      exact clear (leadsDown_iff.mpr (.inl forbidden)) forbidden.with_nul
  case names =>
    intro names reduced
    refine ⟨fun between steps last => ?_, fun more => ?_⟩
    · exact leaves_iff_of_reduceDots (reduceDots_of_steps steps reduced)
    · rw [reduceDots, reduceAfter_append, ← reduceDots, reduced]
      rfl
  case fails =>
    intro fault failed text
    rw [forbiddenFirst_iff failed]
    cases fault with
    | escapes => simp [DotFault.toError, FsError.kind]
    | forbidden name => simp [DotFault.toError, FsError.kind]

/-- A name that is taken back may be taken back before others are, and a forbidden name counts even if
it would be taken back. -/
theorem reduceDots_exact_of_nested :
    reduceDots ["a", "", "b", "..", "..", ".", "c"] = .ok ["c"] ∧
      (∀ last, Leaves ["a", "", "..", ".", "c"] last ↔ last = ["c"]) ∧
      reduceDots ["a", "", "b", "..", "..", ".", "c", "..", ".."] = .error .escapes ∧
      reduceDots ["x\x00", "..", ".."] = .error (.forbidden "x\x00") ∧
      ForbiddenFirst ["x\x00", "..", ".."] ∧
      reduceDots ["..", "x\x00"] = .error .escapes ∧ ¬ ForbiddenFirst ["..", "x\x00"] := by
  have reduced : reduceDots ["a", "", "b", "..", "..", ".", "c"] = .ok ["c"] := rfl
  have bad : reduceDots ["x\x00", "..", ".."] = .error (.forbidden "x\x00") := rfl
  have outside : reduceDots ["..", "x\x00"] = .error .escapes := rfl
  obtain ⟨-, -, names, -⟩ := reduceDots_exact ["a", "", "b", "..", "..", ".", "c"]
  obtain ⟨left, onward⟩ := names _ reduced
  obtain ⟨-, -, -, forbidden⟩ := reduceDots_exact ["x\x00", "..", ".."]
  obtain ⟨-, -, -, escapes⟩ := reduceDots_exact ["..", "x\x00"]
  have inner : Simplifies ["a", "", "b", "..", "..", ".", "c"] ["a", "", "..", ".", "c"] :=
    .takeBack ["a", ""] ["..", ".", "c"] rfl
  exact ⟨reduced, left _ (.single inner), onward ["..", ".."], bad,
    (forbidden _ bad "").1.mp rfl, outside, (escapes _ outside "").2.mp rfl⟩

end CoupledFs.Path
