import CoupledFs.Error

/-! Being open, and ceasing to be. -/

namespace CoupledFs

/-- Whether a file system still serves requests. -/
structure Lifecycle where
  isOpen : Bool := true
  deriving DecidableEq, Repr

namespace Lifecycle

/-- Refuses everything once closed. -/
def check (lifecycle : Lifecycle) : Except FsError Unit :=
  if lifecycle.isOpen then .ok () else .error .closed

/-- Closes for good, and tells whether it was open until now. -/
def close (lifecycle : Lifecycle) : Bool × Lifecycle :=
  (lifecycle.isOpen, ⟨false⟩)

end Lifecycle

end CoupledFs
