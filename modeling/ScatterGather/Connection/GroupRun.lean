import ScatterGather.Connection.Strategy

/-!
# The units of one data source in turn

A `GroupRun` sends the units of a group over one connection, each only after the one before it has
been answered and its outcome kept. The unit with index 0 is the only one whose metadata is asked
for and kept. The first failure ends the run. `UnitGroup.execute` is the same as a plain function of
what the connection answers.
-/

namespace ScatterGather

/-- The metadata of this unit is asked for. -/
def PhysicalUnit.captures (u : PhysicalUnit) : Bool := u.index == 0

/-- What becomes of the outcome of a unit: an error fails, rows are kept as the strategy says. -/
def ConnectionStrategy.keep (s : ConnectionStrategy) (u : PhysicalUnit) (o : Outcome) :
    Except ExecutionError Success := do
  match ← o.classify u.dataSource with
  | .query q =>
    let rows ← s.wrap q.rows
    return .query ⟨if u.captures then q.metadata else none, rows⟩
  | .update counts => return .update counts

/-- A group on its way through a connection. -/
structure GroupRun where
  dataSource : String
  /-- The units not yet sent. -/
  rest : List PhysicalUnit
  /-- The unit that has been sent and not answered. -/
  awaited : Option PhysicalUnit
  /-- The outcomes kept so far, in order. -/
  outcomes : List Success
deriving Inhabited

namespace GroupRun

/-- Nothing has been sent yet. -/
def ofGroup (g : UnitGroup) : GroupRun := ⟨g.dataSource, g.units, none, []⟩

/-- The unit that is sent next, and the run once it has been. -/
def send? (r : GroupRun) : Option (PhysicalUnit × GroupRun) :=
  match r.awaited, r.rest with
  | none, u :: rest => some (u, { r with rest, awaited := some u })
  | _, _ => none

/-- The answer to the unit that was sent: the run goes on, or fails. -/
def receive? (s : ConnectionStrategy) (r : GroupRun) (answer : Except ExecutionError Outcome) :
    Option (Except ExecutionError GroupRun) := do
  let u ← r.awaited
  return do
    let kept ← s.keep u (← answer)
    return { r with awaited := none, outcomes := r.outcomes ++ [kept] }

/-- All units have been answered. -/
def complete (r : GroupRun) : Bool := r.awaited.isNone && r.rest.isEmpty

end GroupRun

/-! ### The plain reference -/

/-- What connections answer: for a data source, the units sent before over the same connection, and
a unit. -/
abbrev ConnectionAnswers :=
  String → List PhysicalUnit → PhysicalUnit → Except ExecutionError Outcome

/-- The outcomes of units sent in turn behind those sent `before`, up to the first failure. -/
def executeUnits (s : ConnectionStrategy) (answers : ConnectionAnswers) (source : String) :
    List PhysicalUnit → List PhysicalUnit → Except ExecutionError (List Success)
  | _, [] => .ok []
  | before, u :: rest => do
    let kept ← s.keep u (← answers source before u)
    let others ← executeUnits s answers source (before ++ [u]) rest
    return kept :: others

/-- The outcomes of a group. -/
def UnitGroup.execute (s : ConnectionStrategy) (answers : ConnectionAnswers) (g : UnitGroup) :
    Except ExecutionError (List Success) :=
  executeUnits s answers g.dataSource [] g.units

/-- The response of a route whose groups are executed one after another. -/
def Route.executeInTurn (s : ConnectionStrategy) (answers : ConnectionAnswers) (keys : Bool)
    (route : Route) : Except ExecutionError Response := do
  let outcomes ← (route.groups keys).mapM (UnitGroup.execute s answers)
  Response.ofUnits outcomes.flatten

end ScatterGather
