/-! Roots: the anchors at which the trees of a file system hang. -/

namespace CoupledFs

/-- The anchor of one tree: `/`, or a drive such as `C:`. -/
structure Root where
  name : String
  separator : Char
  deriving DecidableEq, Repr

namespace Root

/-- Roots are ordered by name and then by separator, both by code points. -/
protected def lt (a b : Root) : Prop :=
  a.name < b.name ∨ a.name = b.name ∧ a.separator < b.separator

instance : LT Root := ⟨Root.lt⟩

instance (a b : Root) : Decidable (a < b) :=
  inferInstanceAs (Decidable (a.name < b.name ∨ a.name = b.name ∧ a.separator < b.separator))

/-- The name, closed by the separator unless it already ends in it. -/
def display (root : Root) : String :=
  if root.name.toList.getLast? = some root.separator then root.name
  else root.name.push root.separator

end Root

end CoupledFs
