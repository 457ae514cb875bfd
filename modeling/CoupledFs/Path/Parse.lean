import CoupledFs.Path
import CoupledFs.Path.Dots
import CoupledFs.Path.Style
import CoupledFs.Text.Fields

/-! Reading a path from text: the root that it begins with, the names behind the root, and the path
that these make. -/

namespace CoupledFs.Path

def DotFault.toError (text : String) : DotFault → FsError
  | .escapes => .invalidArgument (.escapesRoot text)
  | .forbidden name => .invalidName (Text.quoted name)

/-- The drive of a letter: the first of the given roots that bears its name, whatever separator that
root has. -/
def driveAmong (roots : List Root) (letter : Char) : Root :=
  let drive := Root.drive letter
  (roots.find? (·.name = drive.name)).getD drive

/-- The root that a text begins with, if any, and the part of the text that holds the names. A windows
path cannot begin with a separator, and a drive has to be followed by one. -/
def heading (style : PathStyle) (roots : List Root) (text : String) :
    Except FsError (Option Root × String) :=
  let separated (body : List Char) : Bool := body.head?.any style.divides
  match style with
  | .unix => .ok (if separated text.toList then some .slash else none, text)
  | .windows =>
    match PathStyle.splitDrive? text.toList with
    | some (letter, body) =>
      if body ≠ [] ∧ !separated body then .error (.invalidArgument (.driveRelative text))
      else .ok (some (driveAmong roots letter), String.ofList body)
    | none =>
      if separated text.toList then .error (.invalidArgument (.noDrive text))
      else .ok (none, text)

/-- The names in `body`, a part of the whole text `text`. -/
def namesIn (style : PathStyle) (body text : String) : Except FsError (List String) :=
  (reduceDots (Text.fields style.divides body)).mapError (DotFault.toError text)

/-- The path of names under a root, which stays bare if there are none, or of names alone, of which
there has to be one. -/
def assemble (anchor : Option Root) (names : List String) (separator : Char) (text : String) :
    Except FsError Path :=
  match ofParts anchor names separator with
  | some path => .ok path
  | none => .error (.invalidArgument (.emptyPath text))

/-- Reads a path from its whole text. -/
def ofText (style : PathStyle) (roots : List Root) (text : String) : Except FsError Path := do
  let (anchor, body) ← heading style roots text
  let names ← namesIn style body text
  assemble anchor names style.separator text

/-- Reads a path from a first part and further parts, of which the empty ones count for nothing.
The roots are those that exist at the time; whether the path's own root is one of them is not
decided here. -/
def parse (style : PathStyle) (roots : List Root) (first : String) (more : List String) :
    Except FsError Path :=
  ofText style roots (Text.joinParts style.separator (first :: more))

end CoupledFs.Path
