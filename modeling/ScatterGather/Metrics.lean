import ScatterGather.Error

/-!
# Counters

How many statements ran, how many failed and in which way, and how many units and metadata reloads
there were; `render` writes them in the text format of metrics collectors.
-/

namespace ScatterGather

/-- One of the counters. -/
inductive Counter where
  | statements
  | statementsFailed
  | unitsDispatched
  | driverErrors
  | timeouts
  | resourceErrors
  | unsupported
  | ddlRefreshes
deriving DecidableEq, Inhabited, Repr

/-- The counter of a kind of failures, where it has one beside that of all failures. -/
def ErrorKind.counter? : ErrorKind → Option Counter
  | .driver => some .driverErrors
  | .timeout => some .timeouts
  | .resource => some .resourceErrors
  | .unsupported => some .unsupported
  | .invalidState | .unknown => none

namespace Counter

/-- What a statement of so many units raises, each counter by how much. -/
def ofStatement (units : Nat) : List (Counter × Nat) :=
  [(.statements, 1), (.unitsDispatched, units)]

/-- What a failure raises: the counter of all failures, and that of its kind where it has one. -/
def ofFailure (kind : ErrorKind) : List (Counter × Nat) :=
  (.statementsFailed, 1) :: (kind.counter?.map (·, 1)).toList

/-- What a metadata reload raises. -/
def ofReload : List (Counter × Nat) := [(.ddlRefreshes, 1)]

end Counter

/-- The counters of an engine. -/
structure Metrics where
  statements : UInt64 := 0
  statementsFailed : UInt64 := 0
  unitsDispatched : UInt64 := 0
  driverErrors : UInt64 := 0
  timeouts : UInt64 := 0
  resourceErrors : UInt64 := 0
  unsupported : UInt64 := 0
  ddlRefreshes : UInt64 := 0
deriving DecidableEq, Inhabited, Repr

namespace Metrics

/-- What a counter says. -/
def read (m : Metrics) : Counter → UInt64
  | .statements => m.statements
  | .statementsFailed => m.statementsFailed
  | .unitsDispatched => m.unitsDispatched
  | .driverErrors => m.driverErrors
  | .timeouts => m.timeouts
  | .resourceErrors => m.resourceErrors
  | .unsupported => m.unsupported
  | .ddlRefreshes => m.ddlRefreshes

/-- Raises a counter; it starts again at zero when it is full. -/
def raise (m : Metrics) (c : Counter) (n : Nat) : Metrics :=
  let v := m.read c + UInt64.ofNat n
  match c with
  | .statements => { m with statements := v }
  | .statementsFailed => { m with statementsFailed := v }
  | .unitsDispatched => { m with unitsDispatched := v }
  | .driverErrors => { m with driverErrors := v }
  | .timeouts => { m with timeouts := v }
  | .resourceErrors => { m with resourceErrors := v }
  | .unsupported => { m with unsupported := v }
  | .ddlRefreshes => { m with ddlRefreshes := v }

/-- Raises counters. -/
def raiseAll (m : Metrics) (counts : List (Counter × Nat)) : Metrics :=
  counts.foldl (fun m (c, n) => m.raise c n) m

/-- Counts a statement of so many units. -/
def recordStatement (m : Metrics) (units : Nat) : Metrics := m.raiseAll (Counter.ofStatement units)

/-- Counts a failure, also under its kind where that has a counter. -/
def recordFailure (m : Metrics) (kind : ErrorKind) : Metrics := m.raiseAll (Counter.ofFailure kind)

/-- Counts a metadata reload. -/
def recordRefresh (m : Metrics) : Metrics := m.raiseAll Counter.ofReload

/-- One measured value with its help text and type. -/
def entry (name help type : String) (value : Nat) : String :=
  "# HELP " ++ name ++ " " ++ help ++ "\n# TYPE " ++ name ++ " " ++ type ++ "\n"
    ++ name ++ " " ++ toString value ++ "\n"

/-- The counters with their names and help texts, in the order in which they are written. -/
def counters (m : Metrics) : List (String × String × UInt64) :=
  [("shardline_statements_total", "Total number of logical statements executed", m.statements),
   ("shardline_statements_failed_total", "Total number of logical statements that failed",
    m.statementsFailed),
   ("shardline_units_dispatched_total",
    "Total number of physical statements dispatched to backends", m.unitsDispatched),
   ("shardline_driver_errors_total", "Statements failed by a backend error", m.driverErrors),
   ("shardline_timeouts_total", "Statements that timed out waiting for replies", m.timeouts),
   ("shardline_resource_errors_total", "Statements failed while acquiring connections",
    m.resourceErrors),
   ("shardline_unsupported_total", "Statements rejected as unsupported", m.unsupported),
   ("shardline_ddl_refreshes_total", "Table metadata reloads triggered by DDL", m.ddlRefreshes)]

/-- The counters, the statements that wait for replies, and the replies dropped, as text. -/
def render (m : Metrics) (inFlight : Nat) (discarded : UInt64) : String :=
  Text.join "\n"
    (m.counters.map (fun (name, help, value) => entry name help "counter" value.toNat)
      ++ [entry "shardline_pending_waits" "Forwarded statements awaiting replies" "gauge" inFlight,
          entry "shardline_discarded_replies_total"
            "Replies dropped after timeout or for unknown ids" "counter" discarded.toNat])

end Metrics

end ScatterGather
