/-! Sets of characters given as ranges of code points. -/

namespace CoupledFs.Text

/-- Whether a character's code point lies in one of the closed ranges. -/
def inRanges (ranges : Array (Nat × Nat)) (c : Char) : Bool :=
  ranges.any fun (first, last) => first ≤ c.toNat && c.toNat ≤ last

end CoupledFs.Text
