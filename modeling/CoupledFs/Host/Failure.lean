/-! Why the machine that the program runs on refuses to read or write a file. -/

namespace CoupledFs.Host

/-- What can go wrong with a path. -/
inductive Failure where
  | notFound
  | notADirectory
  | isADirectory
  | alreadyExists
  /-- A name that is longer than the machine allows. -/
  | nameTooLong
  /-- A path with the character NUL in it. -/
  | nulInPath
  deriving DecidableEq, Repr

def Failure.message : Failure → String
  | notFound => "No such file or directory (os error 2)"
  | alreadyExists => "File exists (os error 17)"
  | notADirectory => "Not a directory (os error 20)"
  | isADirectory => "Is a directory (os error 21)"
  | nameTooLong => "File name too long (os error 36)"
  | nulInPath => "file name contained an unexpected NUL byte"

/-- A refusal: something is wrong with the path, or the machine has a reason of its own, such as a disk
that is full. -/
inductive Refusal where
  | failure (failure : Failure)
  | other (message : String)
  deriving DecidableEq, Repr

namespace Refusal

def notFound : Refusal := .failure .notFound

def message : Refusal → String
  | failure reason => reason.message
  | other text => text

end Refusal

end CoupledFs.Host
