/-! How important a record is. -/

namespace CoupledFs.Log

/-- The importance of a record, the greatest first. -/
inductive Level where
  | error
  | warn
  | info
  | debug
  | trace
  deriving DecidableEq, Repr

namespace Level

def all : List Level := [error, warn, info, debug, trace]

/-- How many levels are at least as important. -/
def rank : Level → Nat
  | error => 1
  | warn => 2
  | info => 3
  | debug => 4
  | trace => 5

/-- The name of a level as settings spell it. -/
def word : Level → String
  | error => "error"
  | warn => "warn"
  | info => "info"
  | debug => "debug"
  | trace => "trace"

/-- The name of a level as records show it. -/
def label (level : Level) : String := level.word.toUpper

/-- The level of a given name. -/
def ofWord? (word : String) : Option Level :=
  all.find? (·.word = word)

end Level

end CoupledFs.Log
