import CoupledFs.Text.Quoted

/-! Why a file system refuses a request, and how it says so. -/

namespace CoupledFs

/-- What is wrong with an argument. -/
inductive ArgumentFault where
  /-- More `..` than names before them. -/
  | escapesRoot (text : String)
  | emptyPath (text : String)
  /-- A drive letter with neither a separator nor the end of the text behind it. -/
  | driveRelative (text : String)
  /-- A text that starts with a separator where roots are drives. -/
  | noDrive (text : String)
  | notUnixRoot (name : String)
  | notDriveRoot (name : String)
  | noRoots
  | basicViewDisabled
  | rootListedTwice (root : String)
  /-- A bare root, which has no parent to create it in. -/
  | notCreatable (path : String)
  /-- Any other fault, in the words of whoever found it. -/
  | other (reason : String)
  deriving DecidableEq, Repr

def ArgumentFault.reason : ArgumentFault → String
  | .escapesRoot text => text ++ " escapes above its root"
  | .emptyPath text => "empty path " ++ Text.quoted text
  | .driveRelative text => "drive-relative path " ++ text ++ " is not supported"
  | .noDrive text => "path " ++ text ++ " has no drive letter"
  | .notUnixRoot name => Text.quoted name ++ " is not a unix root, only \"/\" is"
  | .notDriveRoot name => Text.quoted name ++ " is not a drive root"
  | .noRoots => "at least one root is required"
  | .basicViewDisabled => "the basic attribute view cannot be disabled"
  | .rootListedTwice root => "root " ++ root ++ " is listed twice"
  | .notCreatable path => path ++ " can not be created"
  | .other reason => reason

/-- Why a request failed. -/
inductive FsError where
  | closed
  | noSuchFile (path : String)
  | notADirectory (path : String)
  | accessDenied (reason : String)
  | alreadyExists (what : String)
  | unsupportedAttribute (view : String)
  | invalidArgument (fault : ArgumentFault)
  | invalidName (shown : String)
  | notImplemented (operation : String)
  | readOnly
  | unknownFileSystem (key : String)
  | unknownPrincipal (name : String)
  /-- A configuration document that cannot be read as one. -/
  | configuration (reason : String)
  /-- A failure of the machine that the program runs on. -/
  | io (reason : String)
  deriving DecidableEq, Repr

namespace FsError

/-- The error without its particulars. -/
inductive Kind where
  | closed
  | noSuchFile
  | notADirectory
  | accessDenied
  | alreadyExists
  | unsupportedAttribute
  | invalidArgument
  | invalidName
  | notImplemented
  | readOnly
  | unknownFileSystem
  | unknownPrincipal
  | configuration
  | io
  deriving DecidableEq, Repr

def kind : FsError → Kind
  | closed => .closed
  | noSuchFile _ => .noSuchFile
  | notADirectory _ => .notADirectory
  | accessDenied _ => .accessDenied
  | alreadyExists _ => .alreadyExists
  | unsupportedAttribute _ => .unsupportedAttribute
  | invalidArgument _ => .invalidArgument
  | invalidName _ => .invalidName
  | notImplemented _ => .notImplemented
  | readOnly => .readOnly
  | unknownFileSystem _ => .unknownFileSystem
  | unknownPrincipal _ => .unknownPrincipal
  | configuration _ => .configuration
  | io _ => .io

def message : FsError → String
  | closed => "file system is closed"
  | noSuchFile path => "no such file: " ++ path
  | notADirectory path => "not a directory: " ++ path
  | accessDenied reason => "access denied: " ++ reason
  | alreadyExists what => "already exists: " ++ what
  | unsupportedAttribute view => "unsupported attribute view: " ++ view
  | invalidArgument fault => "invalid argument: " ++ fault.reason
  | invalidName shown => "name not allowed: " ++ shown
  | notImplemented operation => "not implemented: " ++ operation
  | readOnly => "read-only file system"
  | unknownFileSystem key => "file system not found: " ++ key
  | unknownPrincipal name => "user principal not found: " ++ name
  | configuration reason => "configuration error: " ++ reason
  | io reason => "io error: " ++ reason

/-- The wording of an error followed by that of what caused it, outermost first. -/
def chain (error : FsError) : List String :=
  match error with
  | io reason => [error.message, reason]
  | _ => [error.message]

end FsError

end CoupledFs
