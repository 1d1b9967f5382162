import ScatterGather.Merge.Strategy
import ScatterGather.Metrics
import ScatterGather.Route.Basic
import ScatterGather.TableVersions
import ScatterGather.Transaction

/-!
# One statement from end to end

A statement enters, is dispatched and concluded. `enter` stops a statement that changes tables
inside a distributed transaction, answers an empty route at once and counts what goes on to the
dispatch; `conclude` merges what the dispatch gave, reloads the metadata of a changed table and
counts failures. Both decide only: what is to be changed in the records that all statements share
is given as a list of `RecordChange`s, which are made one after another while other statements make
theirs.
-/

namespace ScatterGather

/-- What all statements share: table versions, counters and the log. -/
structure Records where
  tables : TableVersions
  metrics : Metrics
  log : List LogLine
deriving Inhabited

/-- A change of the records that is made at once. -/
inductive RecordChange where
  /-- A counter is raised. -/
  | raise (c : Counter) (n : Nat)
  /-- The metadata of a table is reloaded, which is reported. -/
  | reload (table : String)
  | report (line : LogLine)
deriving DecidableEq, Inhabited, Repr

namespace RecordChange

/-- Raises counters. -/
def raises (counts : List (Counter × Nat)) : List RecordChange :=
  counts.map fun (c, n) => .raise c n

/-- A statement goes on to the dispatch with so many units. -/
def beginning (units : Nat) : List RecordChange := raises (Counter.ofStatement units)

/-- A statement has failed. -/
def failing (e : ExecutionError) : List RecordChange :=
  raises (Counter.ofFailure e.kind)
    ++ [.report (.error ("Statement failed (" ++ e.kind.name ++ "): " ++ e.message))]

/-- The metadata of a table is stale. -/
def reloading (table : String) : List RecordChange := .reload table :: raises Counter.ofReload

end RecordChange

namespace Records

/-- Nothing has happened yet. -/
def empty : Records := ⟨.empty, {}, []⟩

/-- Makes a change. -/
def change (r : Records) : RecordChange → Records
  | .raise c n => { r with metrics := r.metrics.raise c n }
  | .reload table =>
    { r with
      tables := r.tables.refresh table
      log := r.log ++ [r.tables.refreshLine table] }
  | .report line => { r with log := r.log ++ [line] }

end Records

/-- The result of a statement as the engines give it. -/
abbrev StatementResult := Except ExecutionError (LogicalResult MergedCursor)

/-- What becomes of a statement before any dispatch. -/
inductive Admission where
  /-- It is answered already. -/
  | settled (result : StatementResult)
  /-- It goes on to the dispatch. -/
  | dispatch

namespace Handler

/-- The statement may not run in the transaction. -/
def gated (transaction : Transaction) (statement : Statement) : Bool :=
  statement.kind = .ddl && !transaction.allowsDdl

/-- Why a statement is stopped that changes tables inside a distributed transaction. -/
def gateError (statement : Statement) : ExecutionError :=
  .unsupported (.ddlInTransaction statement.singleTable?)

/-- Decides what becomes of a statement. -/
def enter (transaction : Transaction) (route : Route) : Admission × List RecordChange :=
  if gated transaction route.statement then
    let e := gateError route.statement
    (.settled (.error e), RecordChange.failing e)
  else if route.units.isEmpty then (.settled (.ok (.update .zero)), [])
  else (.dispatch, RecordChange.beginning route.units.length)

/-- The table whose metadata a successful statement makes stale. -/
def staleTable? (statement : Statement) : Option String :=
  if statement.kind = .ddl then statement.singleTable? else none

/-- What a result of a dispatched statement changes in the records. -/
def concluding (statement : Statement) : StatementResult → List RecordChange
  | .error e => RecordChange.failing e
  | .ok _ => ((staleTable? statement).map RecordChange.reloading).getD []

/-- Merges what the dispatch of a statement gave. -/
def conclude (strategy : MergeStrategy) (statement : Statement)
    (response : Except ExecutionError Response) : StatementResult × List RecordChange :=
  let result := response >>= Response.merge strategy statement
  (result, concluding statement result)

end Handler

end ScatterGather
