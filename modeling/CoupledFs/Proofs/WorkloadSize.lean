import CoupledFs.Workload.Size
import Mathlib.Algebra.BigOperators.Intervals
import Mathlib.Algebra.Order.BigOperators.Group.Finset

/-! The size of a workload. It is counted level by level, and a count on the way is too large only if
the whole is. -/

namespace CoupledFs.Workload

theorem counted?_of_lt (small : count < countLimit) : counted? count = some count :=
  if_pos small

theorem counted?_of_le (large : countLimit ≤ count) : counted? count = none :=
  if_neg (Nat.not_lt_of_le large)

theorem counted?_eq_some_iff : counted? count = some size ↔ count < countLimit ∧ size = count := by
  by_cases small : count < countLimit
  · simp [counted?_of_lt small, small, eq_comm]
  · simp [counted?_of_le (Nat.le_of_not_lt small), small]

theorem counted?_eq_none_iff : counted? count = none ↔ countLimit ≤ count := by
  by_cases small : count < countLimit
  · simp [counted?_of_lt small, small]
  · simp [counted?_of_le (Nat.le_of_not_lt small), Nat.le_of_not_lt small]

/-- Levels are added up to what they come to together with the count so far. -/
theorem addLevels_eq (fanout levels depth : Nat) {count : Nat} (small : count < countLimit) :
    addLevels fanout levels depth count =
      counted? (count + ∑ l ∈ Finset.range levels, fanout ^ (depth + l)) := by
  induction levels generalizing depth count with
  | zero => rw [addLevels, Finset.sum_range_zero, Nat.add_zero, counted?_of_lt small]
  | succ levels ih =>
    have split : ∑ l ∈ Finset.range (levels + 1), fanout ^ (depth + l) =
        fanout ^ depth + ∑ l ∈ Finset.range levels, fanout ^ (depth + 1 + l) := by
      rw [Finset.sum_range_succ', Nat.add_comm, Nat.add_zero]
      simp only [Nat.add_assoc, Nat.add_comm 1]
    rw [addLevels, Nat.pow_eq, split, ← Nat.add_assoc]
    by_cases fits : count + fanout ^ depth < countLimit
    · have level : fanout ^ depth < countLimit := by omega
      simp only [counted?_of_lt level, counted?_of_lt fits, Option.bind_eq_bind, Option.bind_some]
      exact ih (depth + 1) fits
    · -- What is too large already does not get smaller.
      have large := Nat.le_of_not_lt fits
      rw [counted?_of_le (Nat.le_add_right_of_le large)]
      by_cases level : fanout ^ depth < countLimit
      · simp only [counted?_of_lt level, counted?_of_le large, Option.bind_eq_bind, Option.bind_some,
          Option.bind_none]
      · rw [counted?_of_le (Nat.le_of_not_lt level)]
        rfl

theorem directoriesPerWorker_eq (depth fanout : Nat) :
    directoriesPerWorker depth fanout =
      counted? (∑ l ∈ Finset.range (depth + 1), fanout ^ l) := by
  rw [directoriesPerWorker, addLevels_eq fanout (depth + 1) 0 (by decide)]
  simp only [Nat.zero_add]

theorem expectedDirectories_eq (depth fanout : Nat) (some_threads : threads ≠ 0) :
    expectedDirectories threads depth fanout =
      counted? (threads * ∑ l ∈ Finset.range (depth + 1), fanout ^ l) := by
  rw [expectedDirectories, directoriesPerWorker_eq, Nat.mul_comm]
  generalize ∑ l ∈ Finset.range (depth + 1), fanout ^ l = size
  by_cases small : size < countLimit
  · rw [counted?_of_lt small]
    rfl
  · have large := Nat.le_of_not_lt small
    have larger := Nat.le_mul_of_pos_right size (Nat.pos_of_ne_zero some_threads)
    rw [counted?_of_le large, counted?_of_le (Nat.le_trans large larger)]
    rfl

theorem eq_sum_of_expectedDirectories
    (counted : expectedDirectories threads depth fanout = some expected) :
    expected = threads * ∑ l ∈ Finset.range (depth + 1), fanout ^ l := by
  obtain ⟨size, each, all⟩ := Option.bind_eq_some_iff.mp counted
  rw [directoriesPerWorker_eq] at each
  obtain ⟨-, rfl⟩ := counted?_eq_some_iff.mp each
  obtain ⟨-, rfl⟩ := counted?_eq_some_iff.mp all
  exact Nat.mul_comm _ _

end CoupledFs.Workload
