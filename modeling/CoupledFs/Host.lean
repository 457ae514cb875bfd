import CoupledFs.Host.Failure

/-! What the program needs of the machine that it runs on. -/

namespace CoupledFs

/-- A machine with files, which refuses in terms of `ε`. -/
class Host (m : Type → Type) (ε : outParam Type) where
  /-- What is meant by a refusal. -/
  refusal : ε → Host.Refusal
  /-- The bytes of a file. -/
  readFile : String → m (Except ε (List UInt8))
  /-- Makes a directory and those above it, as far as they are missing. -/
  createDirectories : String → m (Except ε Unit)
  /-- Adds to the end of a file, which is made if it is missing. -/
  appendFile : String → List UInt8 → m (Except ε Unit)
  /-- Makes a file anew with the given bytes. -/
  writeFile : String → List UInt8 → m (Except ε Unit)
  /-- Milliseconds since some moment in the past. -/
  milliseconds : m Nat

end CoupledFs
