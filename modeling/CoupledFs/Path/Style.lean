import CoupledFs.Error
import CoupledFs.Path.Root

/-! The two styles of path: one tree under `/`, or a tree for each drive. -/

namespace CoupledFs

inductive PathStyle where
  | unix
  | windows
  deriving DecidableEq, Repr

namespace Root

/-- The only root of the unix style. -/
def slash : Root := ⟨"/", '/'⟩

/-- The root of a drive; the letter's case makes no difference. -/
def drive (letter : Char) : Root :=
  ⟨String.ofList [letter.toUpper, ':'], '\\'⟩

end Root

namespace PathStyle

/-- The separator between the names of a path of this style. -/
def separator : PathStyle → Char
  | unix => '/'
  | windows => '\\'

/-- The characters at which the text of a path is divided: windows paths may also use `/`. -/
def divides : PathStyle → Char → Bool
  | unix, c => c == '/'
  | windows, c => c == '\\' || c == '/'

/-- The roots of a file system that names none itself. -/
def defaultRoots : PathStyle → List Root
  | unix => [.slash]
  | windows => [.drive 'C']

/-- A drive letter and a colon, and what stands behind them. -/
def splitDrive? : List Char → Option (Char × List Char)
  | letter :: ':' :: rest => if letter.isAlpha then some (letter, rest) else none
  | _ => none

def rootNamed (style : PathStyle) (name : String) : Except FsError Root :=
  match style with
  | unix =>
    if name = "/" then .ok .slash else .error (.invalidArgument (.notUnixRoot name))
  | windows =>
    match splitDrive? name.toList with
    | some (letter, []) => .ok (.drive letter)
    | some (letter, [c]) =>
      if windows.divides c then .ok (.drive letter)
      else .error (.invalidArgument (.notDriveRoot name))
    | _ => .error (.invalidArgument (.notDriveRoot name))

end PathStyle

end CoupledFs
