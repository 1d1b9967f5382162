import ScatterGather.Config.Basic
import ScatterGather.Connection.Next
import ScatterGather.Forward.Next

/-!
# The engine of a configuration

An `Engine` executes routes in one of the two ways. `Engine.ofConfig?` builds the one that a
configuration names; it gives none when the pool would have more permits than a pool can have.
-/

namespace ScatterGather

/-- The number of tasks that run at once: what is configured, else what suits a machine that runs
so many threads at once. -/
def Config.workers (c : Config) (parallelism : Nat) : Nat :=
  (c.executorSize.map UInt64.toNat).getD (max parallelism 4)

/-- An engine of either kind. -/
inductive Engine where
  | connection (e : ConnectionEngine)
  | forward (e : ForwardEngine)

/-- How a call has ended. -/
inductive CallEnd where
  | result (r : Except ExecutionError Response)
  /-- Its own work broke. -/
  | broken
  /-- Given up by its caller. -/
  | dropped

namespace Engine

/-- The engine that a configuration names. -/
def ofConfig? (parallelism : Nat) (c : Config) : Option Engine :=
  match c.mode with
  | .connection => do
    let pool ← Pool.ofSize? (c.workers parallelism)
    return .connection (.new ⟨.ofMode c.connectionMode c.fetchSize, c.showSql⟩ pool)
  | .forward => some (.forward (.new ⟨c.backendTimeout, some c.fetchSize, c.showSql⟩))

/-- The way of executing routes. -/
def mode : Engine → DispatchMode
  | .connection _ => .connection
  | .forward _ => .forward

/-- The number of calls that have begun. -/
def callCount : Engine → Nat
  | .connection e => e.calls.length
  | .forward e => e.calls.length

/-- A call begins; its number is the number of calls before it. -/
def begin (route : Route) (keys : Bool) : Engine → Engine
  | .connection e => .connection ((e.step (.begin route keys)).getD e)
  | .forward e => .forward ((e.step (.begin route keys)).getD e)

/-- A step over connections. -/
def stepConnection? (a : ConnectionAction) : Engine → Option Engine
  | .connection e => .connection <$> e.step a
  | .forward _ => none

/-- A step over channels. -/
def stepForward? (a : ForwardAction) : Engine → Option Engine
  | .connection _ => none
  | .forward e => .forward <$> e.step a

/-- What a call or a task over connections goes on with. -/
def nextConnection? (who : Runner) : Engine → Option ConnectionNext
  | .connection e => e.next? who
  | .forward _ => none

/-- What a call over channels goes on with. -/
def nextForward? (call : Nat) : Engine → Option ForwardNext
  | .connection _ => none
  | .forward e => e.next? call

/-- A reply is offered, where replies are collected. -/
def offer (frame : ReplyFrame) : Engine → Engine
  | .connection e => .connection e
  | .forward e => .forward (e.offer frame)

/-- The caller gives a call up. -/
def drop (call : Nat) : Engine → Engine
  | .connection e => .connection ((e.step (.drop call)).getD e)
  | .forward e => .forward ((e.step (.drop call)).getD e)

/-- How a call has ended, when it has. -/
def ending? (call : Nat) : Engine → Option CallEnd
  | .connection e => do
    match ← e.calls[call]? with
    | .ended r => some (.result r)
    | .panicked _ => some .broken
    | .dropped => some .dropped
    | _ => none
  | .forward e => do
    match ← e.stage? call with
    | .ended (.result r) => some (.result r)
    | .ended .dropped => some .dropped
    | _ => none

/-- The number of resources that have been acquired. -/
def acquired : Engine → Nat
  | .connection e => e.events.countP DispatchEvent.isAcquired
  | .forward e => e.events.countP DispatchEvent.isAcquired

/-- The number of resources that have been given back. -/
def released : Engine → Nat
  | .connection e => e.events.countP DispatchEvent.isReleased
  | .forward e => e.events.countP DispatchEvent.isReleased

/-- The number of ids with a wait. -/
def inFlight : Engine → Nat
  | .connection _ => 0
  | .forward e => e.collector.registry.inFlight

/-- The number of replies that no wait accepted. -/
def discarded : Engine → UInt64
  | .connection _ => 0
  | .forward e => e.collector.registry.discarded

/-- What has been reported, by those who reported it. -/
def logs : Engine → List (List LogLine)
  | .connection e => [e.log]
  | .forward e => [e.log, e.collector.log]

/-! ### An engine that runs for long -/

/-- What has happened since the last time: the resources that were given back, and what was
reported. -/
structure News where
  released : List (Nat × String)
  lines : List LogLine

/-- Takes out what has happened. -/
def takeNews : Engine → News × Engine
  | .connection e =>
    (⟨e.events.filterMap DispatchEvent.release?, e.log⟩,
      .connection { e with events := [], log := [] })
  | .forward e =>
    (⟨e.events.filterMap DispatchEvent.release?, e.log ++ e.collector.log⟩,
      .forward { e with events := [], log := [], collector := { e.collector with log := [] } })

/-- The calls with the data sources whose tasks have been told to stop and have not ended. -/
def stopping : Engine → List (Nat × String)
  | .connection e =>
    (e.workers.tasks.filter fun t => t.aborting && !t.stage.hasEnded).map fun t =>
      (t.body.call, t.body.run.dataSource)
  | .forward _ => []

/-- The number of tasks beside the calls. -/
def taskCount : Engine → Nat
  | .connection e => e.workers.tasks.length
  | .forward _ => 0

/-- The same engine without what is past, when nothing is under way: calls and tasks are numbered
anew, while correlation ids go on and counters stay. -/
def forgetPast : Engine → Engine
  | .connection e => .connection (.new e.settings e.workers.pool)
  | .forward e =>
    .forward { ForwardEngine.new e.settings with
      collector := { Collector.empty with
        registry := { e.collector.registry with entries := [], waits := [] } } }

end Engine

end ScatterGather
