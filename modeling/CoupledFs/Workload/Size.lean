/-! How many directories a workload makes. -/

namespace CoupledFs.Workload

/-- Counts stay below this number, so that they fit in 64 bits. -/
def countLimit : Nat := UInt64.size

/-- A count, unless it is too large. -/
def counted? (count : Nat) : Option Nat :=
  if count < countLimit then some count else none

/-- Adds so many levels of a tree to a count, from the one at `depth` on. Each level has `fanout`
directories for each one of the level before it; none of the counts on the way may be too large. -/
def addLevels (fanout : Nat) : (levels depth count : Nat) → Option Nat
  | 0, _, count => some count
  | levels + 1, depth, count => do
    let level ← counted? (fanout.pow depth)
    addLevels fanout levels (depth + 1) (← counted? (count + level))

/-- The directories that one worker makes, unless they are too many to count: one at the top, and
`fanout` below each one down to `depth`. -/
def directoriesPerWorker (depth fanout : Nat) : Option Nat :=
  addLevels fanout (depth + 1) 0 0

/-- The directories that all workers make together. -/
def expectedDirectories (threads depth fanout : Nat) : Option Nat := do
  counted? ((← directoriesPerWorker depth fanout) * threads)

end CoupledFs.Workload
