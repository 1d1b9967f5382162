import ScatterGather.Collector.Wait
import ScatterGather.Log
import ScatterGather.Wire.Message

/-!
# Waits by correlation id

A `Registry` finds the wait of a correlation id. Every wait has a number of its own, so that what
remains of an earlier registration can be told from a later one under the same id. What tasks do
with a registry is divided into steps between which other tasks may run: an offer looks its wait up
and only then appends to it; a call that waits finds and claims the wait, waits, and at the end
removes whatever is registered under its id. Replies that no wait accepts are counted.
-/

namespace ScatterGather

/-- The waits that are registered, and all waits there ever were. -/
structure Registry (α : Type) where
  /-- The number of the wait of each id. -/
  entries : List (CorrelationId × Nat)
  /-- The waits by number. -/
  waits : List (Wait α)
  nextId : CorrelationId
  /-- The replies that no wait accepted. -/
  discarded : UInt64
deriving Inhabited

namespace Registry

/-- Nothing is registered. -/
def empty : Registry α := ⟨[], [], 1, 0⟩

/-- An id that has not been given before. -/
def takeId (r : Registry α) : CorrelationId × Registry α :=
  (r.nextId, { r with nextId := r.nextId + 1 })

/-- The number of the wait of an id. -/
def find? (r : Registry α) (id : CorrelationId) : Option Nat := r.entries.lookup id

/-- The wait of a number. -/
def wait? (r : Registry α) (number : Nat) : Option (Wait α) := r.waits[number]?

/-- Puts a wait in the place of the one of its number. -/
def setWait (r : Registry α) (number : Nat) (w : Wait α) : Registry α :=
  { r with waits := r.waits.set number w }

/-- The number of ids with a wait. -/
def inFlight (r : Registry α) : Nat := r.entries.length

/-- Registers a wait and gives its number, unless the id has one. -/
def register (r : Registry α) (id : CorrelationId) (expected : Nat) :
    Except ExecutionError Nat × Registry α :=
  match r.find? id with
  | some _ => (.error (.invalidState (.waitExists id)), r)
  | none =>
    (.ok r.waits.length,
      { r with
        entries := r.entries ++ [(id, r.waits.length)]
        waits := r.waits ++ [.new expected] })

/-- Takes the entry of an id away and gives the number of its wait. -/
def remove (r : Registry α) (id : CorrelationId) : Option Nat × Registry α :=
  (r.find? id, { r with entries := r.entries.filter (·.1 ≠ id) })

/-- Closes the wait of a number. -/
def close (r : Registry α) (number : Nat) : Registry α :=
  { r with waits := r.waits.modify number Wait.close }

/-- Counts a reply that no wait accepted. -/
def discard (r : Registry α) : Registry α := { r with discarded := r.discarded + 1 }

end Registry

/-- The report about a reply that no wait accepted. -/
def discardLine (id : CorrelationId) : LogLine :=
  .warn s!"Discarding unexpected reply for correlation id {id.toNat}"

/-- The report about a wait whose deadline has passed. -/
def timeoutLine (id : CorrelationId) (waited : Duration) (received expected : Nat) : LogLine :=
  .warn (s!"Wait {id.toNat} timed out after " ++ waited.text
    ++ s!" with {received}/{expected} replies")

/-- Where the offer of a reply stands. -/
inductive OfferStage (α : Type) where
  /-- About to look the wait up. -/
  | finding (item : α)
  /-- About to append to the wait that was found. -/
  | appending (number : Nat) (item : α)
  /-- The wait is complete: about to wake a call. -/
  | waking (number : Nat)
  | ended (accepted : Bool)
deriving Inhabited

/-- Where a call that waits for the replies of an id stands. -/
inductive AwaitStage (α : Type) where
  /-- About to look the wait up. -/
  | finding
  /-- About to claim the wait that was found. -/
  | claiming (number : Nat)
  /-- Waiting. -/
  | waiting (number : Nat) (stage : WaitStage α)
  /-- About to remove the entry of the id. -/
  | removing (result : Except ExecutionError (List α))
  /-- About to close the wait whose entry was removed. -/
  | closing (number : Nat) (result : Except ExecutionError (List α))
  | ended (result : Except ExecutionError (List α))
  /-- Given up: about to remove the entry of the id. -/
  | leaving
  /-- Given up: about to close the wait whose entry was removed. -/
  | sweeping (number : Nat)
  /-- Given up, and nothing is left to do. -/
  | gone
deriving Inhabited

/-- Where the removal of an id stands: asked for, or by a guard that is dropped. -/
inductive RemovalStage where
  /-- About to remove the entry. -/
  | removing
  /-- About to close the wait whose entry was removed. -/
  | closing (number : Nat)
  | ended (removed : Bool)
deriving DecidableEq, Inhabited

/-- What a task does with a registry. -/
inductive RegistryTask (α : Type) where
  | offer (id : CorrelationId) (stage : OfferStage α)
  | await (id : CorrelationId) (timeout : Duration) (stage : AwaitStage α)
  | unregister (id : CorrelationId) (stage : RemovalStage)
deriving Inhabited

/-- A registry with the tasks that use it, by number, and what has been reported. -/
structure Collector (α : Type) where
  registry : Registry α
  tasks : List (RegistryTask α)
  log : List LogLine
deriving Inhabited

/-- What may happen to a registry and its tasks. -/
inductive CollectorAction (α : Type) where
  | register (id : CorrelationId) (expected : Nat)
  /-- A task begins to offer a reply. -/
  | offer (id : CorrelationId) (item : α)
  /-- A task begins to wait for the replies of an id. -/
  | await (id : CorrelationId) (timeout : Duration)
  /-- A task begins to remove an id. -/
  | unregister (id : CorrelationId)
  /-- A task takes its next step. -/
  | advance (task : Nat)
  /-- The deadline of a task passes. -/
  | expire (task : Nat)
  /-- A task is given up where it stands. -/
  | cancel (task : Nat)

namespace Collector

/-- A registry that nobody uses yet. -/
def empty : Collector α := ⟨.empty, [], []⟩

/-- Begins a task. -/
def spawn (s : Collector α) (t : RegistryTask α) : Collector α := { s with tasks := s.tasks ++ [t] }

/-- Puts a task and the registry after one of its steps. -/
def put (s : Collector α) (task : Nat) (t : RegistryTask α) (r : Registry α)
    (lines : List LogLine) : Collector α :=
  ⟨r, s.tasks.set task t, s.log ++ lines⟩

/-- The next step of an offer. -/
def advanceOffer (r : Registry α) (id : CorrelationId) :
    OfferStage α → Option (OfferStage α × Registry α × List LogLine)
  | .finding item =>
    match r.find? id with
    | some number => some (.appending number item, r, [])
    | none => some (.ended false, r.discard, [discardLine id])
  | .appending number item => do
    let w ← r.wait? number
    match w.append item with
    | (true, w') =>
      return (if w'.status = .complete then .waking number else .ended true,
        r.setWait number w', [])
    | (false, _) => return (.ended false, r.discard, [discardLine id])
  | .waking number => do
    let w ← r.wait? number
    return (.ended true, r.setWait number w.wakeOne, [])
  | .ended _ => none

/-- What a call gets that has waited. -/
def awaitResult (id : CorrelationId) (timeout : Duration) (w : Wait α) :
    Option (List α) → Except ExecutionError (List α) × List LogLine
  | some items => (.ok items, [])
  | none =>
    (.error (.timeout id timeout w.accepted w.expected),
      [timeoutLine id timeout w.accepted w.expected])

/-- The next step of a call that waits. -/
def advanceAwait (task : Nat) (r : Registry α) (id : CorrelationId) (timeout : Duration) :
    AwaitStage α → Option (AwaitStage α × Registry α × List LogLine)
  | .finding =>
    match r.find? id with
    | some number => some (.claiming number, r, [])
    | none => some (.ended (.error (.invalidState (.noWait id))), r, [])
  | .claiming number => do
    let w ← r.wait? number
    match w.claim with
    | (true, w') => return (.waiting number .checking, r.setWait number w', [])
    | (false, _) => return (.ended (.error (.invalidState (.alreadyAwaited id))), r, [])
  | .waiting number (.ended items) => do
    let w ← r.wait? number
    let (result, lines) := awaitResult id timeout w items
    return (.removing result, r, lines)
  | .waiting number stage => do
    let w ← r.wait? number
    let (stage', w') ← stage.advance task w
    return (.waiting number stage', r.setWait number w', [])
  | .removing result =>
    match r.remove id with
    | (some number, r') => some (.closing number result, r', [])
    | (none, r') => some (.ended result, r', [])
  | .closing number result => some (.ended result, r.close number, [])
  | .leaving =>
    match r.remove id with
    | (some number, r') => some (.sweeping number, r', [])
    | (none, r') => some (.gone, r', [])
  | .sweeping number => some (.gone, r.close number, [])
  | .ended _ | .gone => none

/-- The next step of a removal. -/
def advanceRemoval (r : Registry α) (id : CorrelationId) :
    RemovalStage → Option (RemovalStage × Registry α)
  | .removing =>
    match r.remove id with
    | (some number, r') => some (.closing number, r')
    | (none, r') => some (.ended false, r')
  | .closing number => some (.ended true, r.close number)
  | .ended _ => none

/-- The next step of a task. -/
def advance (s : Collector α) (task : Nat) : Option (Collector α) := do
  match ← s.tasks[task]? with
  | .offer id stage =>
    let (stage, r, lines) ← advanceOffer s.registry id stage
    return s.put task (.offer id stage) r lines
  | .await id timeout stage =>
    let (stage, r, lines) ← advanceAwait task s.registry id timeout stage
    return s.put task (.await id timeout stage) r lines
  | .unregister id stage =>
    let (stage, r) ← advanceRemoval s.registry id stage
    return s.put task (.unregister id stage) r []

/-- The deadline of a task passes. -/
def expire (s : Collector α) (task : Nat) : Option (Collector α) := do
  match ← s.tasks[task]? with
  | .await id timeout (.waiting number stage) =>
    let w ← s.registry.wait? number
    let (stage, w) ← stage.expire task w
    return s.put task (.await id timeout (.waiting number stage)) (s.registry.setWait number w) []
  | _ => none

/-- A task is given up where it stands: its guard goes with it. -/
def cancel (s : Collector α) (task : Nat) : Option (Collector α) := do
  match ← s.tasks[task]? with
  | .await id timeout (.waiting number stage) =>
    let w ← s.registry.wait? number
    let w ← stage.abandon? task w
    return s.put task (.await id timeout .leaving) (s.registry.setWait number w) []
  | .await id timeout .finding => return s.put task (.await id timeout .gone) s.registry []
  | _ => none

/-- One step; `none` when it is not possible. -/
def step (s : Collector α) : CollectorAction α → Option (Collector α)
  | .register id expected => some { s with registry := (s.registry.register id expected).2 }
  | .offer id item => some (s.spawn (.offer id (.finding item)))
  | .await id timeout => some (s.spawn (.await id timeout .finding))
  | .unregister id => some (s.spawn (.unregister id .removing))
  | .advance task => s.advance task
  | .expire task => s.expire task
  | .cancel task => s.cancel task

/-- Steps in order; `none` when one is not possible. -/
def run (s : Collector α) (actions : List (CollectorAction α)) : Option (Collector α) :=
  actions.foldlM step s

end Collector

end ScatterGather
