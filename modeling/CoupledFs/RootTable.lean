import CoupledFs.Node
import CoupledFs.Path.Root

/-! The roots of a file system and the directories that they stand for. -/

namespace CoupledFs

/-- Roots with their directories, in the order of the roots and with each root once. A table is a
value: whoever has taken one keeps it, whatever replaces it later. -/
structure RootTable where
  entries : List (Root × NodeId) := []
  deriving DecidableEq, Repr

namespace RootTable

/-- The entries with a root standing for a directory, in place of any other. -/
def insertEntry (root : Root) (directory : NodeId) :
    List (Root × NodeId) → List (Root × NodeId)
  | [] => [(root, directory)]
  | (other, there) :: rest =>
    if root = other then (root, directory) :: rest
    else if root < other then (root, directory) :: (other, there) :: rest
    else (other, there) :: insertEntry root directory rest

/-- The table in which a root stands for a directory, in place of any other. -/
def insert (table : RootTable) (root : Root) (directory : NodeId) : RootTable :=
  ⟨insertEntry root directory table.entries⟩

/-- The table of a list in which the last mention of a root counts. -/
def ofList (entries : List (Root × NodeId)) : RootTable :=
  entries.foldl (fun table (root, directory) => table.insert root directory) {}

def roots (table : RootTable) : List Root :=
  table.entries.map Prod.fst

/-- The directory that a root stands for. -/
def get? (table : RootTable) (root : Root) : Option NodeId :=
  table.entries.lookup root

def contains (table : RootTable) (root : Root) : Bool :=
  table.entries.any (·.1 = root)

def size (table : RootTable) : Nat :=
  table.entries.length

def isEmpty (table : RootTable) : Bool :=
  table.entries.isEmpty

end RootTable

end CoupledFs
