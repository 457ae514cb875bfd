import CoupledFs.Pattern

/-! Patterns as automata. A state may lead to several others, of which the first comes before those
behind it. -/

namespace CoupledFs.Pattern

abbrev StateId := Nat

/-- A state of an automaton. -/
inductive State where
  /-- Needs one character of a set. -/
  | reads (members : CharSet) (next : StateId)
  /-- Needs an assertion to hold. -/
  | asserts (kind : Assertion) (next : StateId)
  /-- Leads to others by itself, the preferred ones first. -/
  | forks (options : List StateId)
  | accepts
  deriving DecidableEq, Repr

structure Automaton where
  states : Array State
  start : StateId
  deriving DecidableEq, Repr

namespace Automaton

def state (automaton : Automaton) (id : StateId) : State :=
  automaton.states[id]?.getD (.forks [])

/-- States being put together. -/
private abbrev Builder := StateM (Array State)

private def add (state : State) : Builder StateId :=
  modifyGet fun states => (states.size, states.push state)

private def redefine (id : StateId) (state : State) : Builder Unit :=
  modify fun states => states.setIfInBounds id state

/-- What a greedy choice prefers comes first. -/
private def choice (greedy : Bool) (more fewer : StateId) : State :=
  .forks (if greedy then [more, fewer] else [fewer, more])

private def addText (next : StateId) : List Char → Builder StateId
  | [] => pure next
  | c :: characters => do add (.reads (.single c) (← addText next characters))

mutual

/-- Adds the states of a pattern in front of `next`. A repetition that may take up nothing is entered
through a fork of its own. -/
private def addPattern (next : StateId) : Pattern → Builder StateId
  | .empty => pure next
  | .text characters => addText next characters
  | .set _ members => add (.reads members next)
  | .assertion kind => add (.asserts kind next)
  | .group _ body => addPattern next body
  | .repeated .atMostOnce greedy body => do
    let first ← addPattern next body
    add (choice greedy first next)
  | .repeated .atLeastOnce greedy body => do
    let again ← add (.forks [])
    let first ← addPattern again body
    redefine again (choice greedy first next)
    return first
  | .repeated .anyNumber greedy body => do
    let again ← add (.forks [])
    let first ← addPattern again body
    redefine again (choice greedy first next)
    if body.isFilled then return again else add (choice greedy first next)
  | .sequence parts => addAll next parts
  | .either alternatives => do add (.forks (← addEach next alternatives))

private def addAll (next : StateId) : List Pattern → Builder StateId
  | [] => pure next
  | part :: parts => do addPattern (← addAll next parts) part

private def addEach (next : StateId) : List Pattern → Builder (List StateId)
  | [] => pure []
  | pattern :: patterns => do
    let first ← addPattern next pattern
    return first :: (← addEach next patterns)

end

/-- The automaton that looks for a pattern from any place on, and from an earlier place rather than
from a later one. -/
def ofPattern (pattern : Pattern) : Automaton :=
  let build : Builder StateId := do
    let accepting ← add .accepts
    let first ← addPattern accepting pattern
    let start ← add (.forks [])
    let skip ← add (.reads .all start)
    redefine start (.forks [first, skip])
    return start
  let (start, states) := build.run #[]
  { states, start }

end Automaton

end CoupledFs.Pattern
