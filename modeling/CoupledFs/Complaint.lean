import CoupledFs.Error
import CoupledFs.Text.Fields

/-! What a program says when it gives up. -/

namespace CoupledFs

/-- What went wrong, followed by what caused it and so on. -/
structure Complaint where
  message : String
  causes : List String := []
  deriving DecidableEq, Repr

namespace Complaint

def ofError (error : FsError) : Complaint :=
  ⟨error.message, error.chain.tail⟩

/-- A complaint with a wider circumstance in front. -/
def within (complaint : Complaint) (circumstance : String) : Complaint :=
  ⟨circumstance, complaint.message :: complaint.causes⟩

/-- Everything that is said, the widest circumstance first. -/
def messages (complaint : Complaint) : List String :=
  complaint.message :: complaint.causes

/-- A message whose first line starts with `first` and whose other lines with `rest`. -/
private def indent (first rest message : String) : String :=
  first ++ String.intercalate ("\n" ++ rest) (Text.fields (· = '\n') message)

/-- A number, right-aligned in five columns. -/
private def numberColumn (n : Nat) : String :=
  let digits := toString n
  String.ofList (List.replicate (5 - digits.length) ' ') ++ digits

/-- The complaint as the console shows it. Causes are numbered if there are several. -/
def render (complaint : Complaint) : String :=
  "Error: " ++ complaint.message ++
    match complaint.causes with
    | [] => ""
    | [cause] => "\n\nCaused by:\n" ++ indent "    " "    " cause
    | causes =>
      "\n\nCaused by:" ++ String.join (causes.zipIdx.map fun (cause, n) =>
        "\n" ++ indent (numberColumn n ++ ": ") "       " cause)

end Complaint

end CoupledFs
