import CoupledFs.Pattern.Automaton

/-! Searching a text with an automaton. All ways to match are followed at the same time, in their
order; at each place of the text a state is entered at most once, by the first way that comes to
it. -/

namespace CoupledFs.Pattern.Automaton

def isWordChar (c : Char) : Bool := CharSet.word.contains c

/-- Where a search stands. -/
structure Front where
  /-- The states that have been entered, in their order, but for the forks. -/
  entered : List StateId
  /-- The assertions that were known to hold when they were entered. -/
  known : List Assertion
  /-- Whether the character before was part of a word. -/
  behindWord : Bool := false
  /-- Whether the character before was a carriage return. -/
  behindReturn : Bool := false
  deriving Repr

private def edges (automaton : Automaton) : Nat :=
  automaton.states.foldl (fun count state => match state with
    | .forks options => count + options.length
    | .reads .. | .asserts .. | .accepts => count + 1) 0

/-- The states that have been entered at one place of a text. -/
structure Visit where
  /-- For each state whether it has been entered. -/
  seen : Array Bool
  /-- The entered states, the last one first. -/
  order : List StateId := []
  deriving Repr

private def Visit.has (visit : Visit) (id : StateId) : Bool :=
  visit.seen[id]?.getD true

private def Visit.add (visit : Visit) (id : StateId) : Visit :=
  ⟨visit.seen.setIfInBounds id true, id :: visit.order⟩

/-- Enters the states in `waiting`, and whatever they lead to without a character. No state is entered
twice, so the edges of the automaton are enough `fuel`. -/
private def enterAll (automaton : Automaton) (known : List Assertion) :
    Nat → Visit → List StateId → Visit
  | _, visit, [] => visit
  | 0, visit, _ => visit
  | fuel + 1, visit, id :: waiting =>
    if visit.has id then enterAll automaton known fuel visit waiting
    else
      let next := match automaton.state id with
        | .forks options => options
        | .asserts kind next => if known.contains kind then [next] else []
        | .reads .. | .accepts => []
      enterAll automaton known fuel (visit.add id) (next ++ waiting)

private def enter (automaton : Automaton) (known : List Assertion) (ids : List StateId) :
    List StateId :=
  let nowhere : Visit := { seen := .replicate automaton.states.size false }
  (enterAll automaton known (automaton.edges + ids.length) nowhere ids).order.reverse

private def isFork : State → Bool
  | .forks _ => true
  | _ => false

/-- The states that a front keeps. -/
private def kept (automaton : Automaton) (ids : List StateId) : List StateId :=
  ids.filter fun id => !isFork (automaton.state id)

def firstFront (automaton : Automaton) : Front :=
  let known := [.start, .lineStart, .anyLineStart]
  { entered := automaton.kept (automaton.enter known [automaton.start]), known }

/-- The assertions that hold at a front once it is seen what comes next. -/
private def settled (front : Front) (after : Option Char) : List Assertion :=
  let wordAfter := after.any isWordChar
  front.known ++
    (match after with
      | none => [.finish, .lineFinish, .anyLineFinish]
      | some '\r' => [.anyLineFinish]
      | some '\n' => if front.behindReturn then [.lineFinish] else [.lineFinish, .anyLineFinish]
      | some _ => []) ++
    (if front.behindReturn ∧ after ≠ some '\n' then [.anyLineStart] else []) ++
    (if front.behindWord == wordAfter then [.notWordBoundary] else [.wordBoundary]) ++
    (if front.behindWord && !wordAfter then [.wordFinish] else []) ++
    (if !front.behindWord && wordAfter then [.wordStart] else [])

private def asserted (automaton : Automaton) (id : StateId) : Option Assertion :=
  match automaton.state id with
  | .asserts kind _ => some kind
  | _ => none

/-- The states of a front once it is seen what comes next. They are entered anew only if that settles
an assertion that one of them waits for. -/
private def resolved (automaton : Automaton) (front : Front) (after : Option Char) : List StateId :=
  let known := settled front after
  let needed := front.entered.filterMap automaton.asserted
  if needed.any fun kind => known.contains kind && !front.known.contains kind then
    automaton.enter known front.entered
  else front.entered

private def isAccepting (automaton : Automaton) (id : StateId) : Bool :=
  automaton.state id = .accepts

/-- The front behind one more character. States that come after an accepting one are given up. -/
def step (automaton : Automaton) (front : Front) (c : Char) : Front :=
  let ids := (automaton.resolved front (some c)).takeWhile (!automaton.isAccepting ·)
  let known := if c = '\n' then [.lineStart, .anyLineStart] else []
  let next := ids.filterMap fun id => match automaton.state id with
    | .reads members next => if members.contains c then some next else none
    | _ => none
  { entered := automaton.kept (automaton.enter known next)
    known
    behindWord := isWordChar c
    behindReturn := c = '\r' }

/-- Whether the first match in a text reaches to its end. -/
def matchesUpToEnd (automaton : Automaton) (text : String) : Bool :=
  let front := text.toList.foldl automaton.step automaton.firstFront
  (automaton.resolved front none).any automaton.isAccepting

end CoupledFs.Pattern.Automaton
