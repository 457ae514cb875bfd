import CoupledFs.Error
import CoupledFs.Log.Record

/-! Requests that may fail, change a state and leave a trace of what they do. -/

namespace CoupledFs

/-- What a request can do on its way, besides changing the state. -/
inductive Deed where
  | record (record : Log.Record)
  | lock (step : LockStep)
  deriving DecidableEq, Repr

namespace Deed

def record? : Deed → Option Log.Record
  | .record made => some made
  | .lock _ => none

def step? : Deed → Option LockStep
  | .record _ => none
  | .lock step => some step

def within (span : Log.Span) : Deed → Deed
  | .record made => .record (made.within span)
  | .lock step => .lock step

end Deed

/-- What a request leaves behind: its answer, the state, and a trace of what it did, in order. The
state is there whether or not the request succeeded. -/
structure Reply (σ α : Type) where
  answer : Except FsError α
  state : σ
  trace : List Deed

namespace Reply

variable {σ α : Type}

/-- The records that were made. -/
def log (reply : Reply σ α) : List Log.Record :=
  reply.trace.filterMap Deed.record?

/-- The steps that were taken under locks. -/
def steps (reply : Reply σ α) : List LockStep :=
  reply.trace.filterMap Deed.step?

/-- The reply with more done before it. -/
def behind (reply : Reply σ α) (trace : List Deed) : Reply σ α :=
  { reply with trace := trace ++ reply.trace }

end Reply

/-- A request to something with a state of type `σ`. -/
def Action (σ α : Type) : Type := σ → Reply σ α

namespace Action

variable {σ τ α β : Type}

instance : Monad (Action σ) where
  pure value := fun state => ⟨.ok value, state, []⟩
  bind action next := fun state =>
    match action state with
    | ⟨.ok value, state, trace⟩ => (next value state).behind trace
    | ⟨.error error, state, trace⟩ => ⟨.error error, state, trace⟩

def fail (error : FsError) : Action σ α := fun state => ⟨.error error, state, []⟩

/-- Gives a known answer. -/
def ofExcept (answer : Except FsError α) : Action σ α := fun state => ⟨answer, state, []⟩

def inspect (view : σ → α) : Action σ α := fun state => ⟨.ok (view state), state, []⟩

/-- Replaces the state by what `change` makes of it. -/
def modify (change : σ → σ) : Action σ Unit := fun state => ⟨.ok (), change state, []⟩

def report (event : Log.Event) : Action σ Unit := fun state =>
  ⟨.ok (), state, [.record ⟨event, none⟩]⟩

/-- Performs a request and marks its records as belonging to `span`. -/
def within (span : Log.Span) (action : Action σ α) : Action σ α := fun state =>
  let reply := action state
  { reply with trace := reply.trace.map (·.within span) }

/-- Performs a request on a part of the state. -/
def onPart (part : σ → τ) (withPart : σ → τ → σ) (action : Action τ α) : Action σ α := fun state =>
  let reply := action (part state)
  ⟨reply.answer, withPart state reply.state, reply.trace⟩

end Action

end CoupledFs
