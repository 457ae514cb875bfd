import CoupledFs.Log.Directive

/-! Choosing the records that are kept. -/

namespace CoupledFs.Log

/-- A list of directives, no two of which have the same subject. -/
structure Filter where
  directives : List Directive
  deriving Repr

namespace Filter

/-- The directives without those that a later one replaces. -/
private def latest (directives : List Directive) : List Directive :=
  directives.foldr
    (fun directive later => if later.any directive.sameSubject then later else directive :: later) []

/-- The filter of the given directives; without any, only errors are kept. -/
private def ofDirectives (directives : List Directive) : Filter :=
  ⟨if directives = [] then [{ rank := Level.error.rank }] else latest directives⟩

private def parts (text : String) : List String :=
  (Text.fields (· = ',') text).filter (· ≠ "")

/-- Reads a filter, in which directives stand between commas. The first faulty one decides. -/
def parse (text : String) : Except Directive.Fault Filter :=
  ((parts text).mapM Directive.parse).map ofDirectives

/-- The filter that keeps the records of a component, and of the library that it uses, up to a
level. -/
def standard (component : String) (level : Level) : Filter :=
  let source := component.map fun c => if c = '-' then '_' else c
  let texts := [level.label, source ++ "=" ++ level.label, "memfs_core=" ++ level.label]
  ofDirectives ((texts.flatMap parts).filterMap fun part => (Directive.parse part).toOption)

/-- The filter from the environment, or the standard one if there is none or it cannot be read.
Nothing takes the place of a filter with a torn directive. -/
def choose (override : Option String) (component : String) (level : Level) :
    Except Directive.Fault Filter :=
  match override.map parse with
  | some (.ok filter) => .ok filter
  | some (.error .torn) => .error .torn
  | some (.error .unreadable) | none => .ok (standard component level)

/-- The rank that the most specific static directive for an event sets. -/
private def staticRank (filter : Filter) (event : Event) : Nat :=
  let candidates := filter.directives.filter fun d => d.isStatic && d.appliesToEvent event
  let best := candidates.foldl (fun best d => match best with
    | none => some d
    | some b => if b.yieldsTo d then some d else some b) none
  (best.map Directive.rank).getD 0

/-- The highest rank that a directive for the request around an event sets. -/
private def spanRank (filter : Filter) (span : Span) : Nat :=
  ((filter.directives.filter fun d => d.isDynamic && d.appliesToSpan span).map
    Directive.rank).foldl max 0

/-- Whether a record is kept. -/
def keeps (filter : Filter) (record : Record) : Bool :=
  let rank := record.event.level.rank
  record.span.any (fun span => rank ≤ filter.spanRank span) ||
    rank ≤ filter.staticRank record.event

end Filter

end CoupledFs.Log
