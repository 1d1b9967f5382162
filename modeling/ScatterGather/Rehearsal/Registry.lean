import ScatterGather.Collector.Registry
import ScatterGather.Rehearsal.Agenda

/-!
# Rehearsing a registry

Steps on one registry: registrations with and without a guard, offers, and calls that wait with a
deadline, in the foreground or beside the other steps.
-/

namespace ScatterGather.Rehearsal.Registration

/-- What happens at a time. -/
inductive Event (α : Type) where
  | expire (task : Nat)
  | offer (id : CorrelationId) (item : α)

/-- One step. -/
inductive Step (α : Type) where
  | nextId
  | register (id : CorrelationId) (expected : Nat)
  /-- Registers and keeps a guard. -/
  | scoped (id : CorrelationId) (expected : Nat)
  | dropScoped (id : CorrelationId)
  | offer (id : CorrelationId) (item : α)
  | unregister (id : CorrelationId)
  /-- Waits, at most so many milliseconds. -/
  | waitFor (id : CorrelationId) (timeout : Nat)
  /-- Begins a call that waits, under a label. -/
  | spawnWait (label : String) (id : CorrelationId) (timeout : Nat)
  | join (label : String)
  | cancel (label : String)
  /-- Offers after a delay. -/
  | spawnOffer (delay : Nat) (id : CorrelationId) (item : α)
  | sleep (delay : Nat)
  /-- Looks at the wait that the last registration of the id gave. -/
  | handle (id : CorrelationId)
  | handleOffer (id : CorrelationId) (item : α)
  | handleClose (id : CorrelationId)

/-- What a step gives. -/
inductive Answer (α : Type) where
  | nothing
  | flag (b : Bool)
  | id (id : CorrelationId)
  | expected (result : Except ExecutionError Nat)
  | guarded (result : Except ExecutionError CorrelationId)
  | replies (result : Except ExecutionError (List α))
  | cancelled
  | state (accepted : Nat) (complete : Bool) (expected : Nat)

/-- A registry and its tasks with their clock. -/
abbrev Clock (α : Type) := Clocked (Collector α) (Event α)

/-- The registry, its clock, the labelled calls, the guards and the handles that are kept. -/
structure State (α : Type) where
  clock : Clock α
  labels : List (String × Nat)
  guards : List CorrelationId
  handles : List (CorrelationId × Nat)

/-- A registry at time zero. -/
def State.new : State α := ⟨⟨0, [], .empty⟩, [], [], []⟩

/-- Lets all tasks go on as far as they can. -/
def settled (s : Collector α) : Collector α :=
  settle Collector.advance (fun s => s.tasks.length) (stepsPerTask * (s.tasks.length + 1)) s

/-- Does something, lets the newest task run to its end or its wait, then the others. -/
def act (action : CollectorAction α) (s : Collector α) : Collector α :=
  let s := (s.step action).getD s
  settled (finish Collector.advance (s.tasks.length - 1) stepsPerTask s)

/-- Lets something happen. -/
def fire (e : Event α) (c : Clock α) : Clock α :=
  c.update fun s =>
    match e with
    | .expire task => settled ((s.step (.expire task)).getD s)
    | .offer id item => act (.offer id item) s

/-- Lets time pass, with all that happens in it. -/
def sleep (delay : Nat) (c : Clock α) : Clock α := c.sleep fire c.agenda.length delay

/-- The task has accepted its reply, or removed its id. -/
def flagOf (task : Nat) (s : Collector α) : Bool :=
  match s.tasks[task]? with
  | some (.offer _ (.ended accepted)) => accepted
  | some (.unregister _ (.ended removed)) => removed
  | _ => false

/-- What a call that waits has got, when it has ended. -/
def outcome? (task : Nat) (s : Collector α) : Option (Except ExecutionError (List α)) :=
  match s.tasks[task]? with
  | some (.await _ _ (.ended result)) => some result
  | _ => none

/-- Begins a call that waits; its number. -/
def spawn (c : Clock α) (id : CorrelationId) (timeout : Nat) :
    Nat × Clock α :=
  let task := c.state.tasks.length
  let c := c.update (act (.await id (.ofMillis timeout)))
  (task, sleep 0 (c.after timeout (.expire task)))

/-- Lets time pass until a call that waits has ended. -/
def joined (task : Nat) (s : State α) : Answer α × State α :=
  let clock := s.clock.await fire (fun c => (outcome? task c).isSome) s.clock.agenda.length
  match outcome? task clock.state with
  | some result => (.replies result, { s with clock })
  | none => (.nothing, { s with clock })

/-- Does something at once and says whether it was accepted. -/
def flagged (s : State α) (action : CollectorAction α) : Answer α × State α :=
  let task := s.clock.state.tasks.length
  let clock := s.clock.update (act action)
  (.flag (flagOf task clock.state), { s with clock })

/-- Registers an id; the number of its wait. -/
def register (s : State α) (id : CorrelationId) (expected : Nat) :
    Except ExecutionError Nat × State α :=
  let (result, r) := s.clock.state.registry.register id expected
  (result, { s with clock := s.clock.update fun c => { c with registry := r } })

/-- Drops the guard of an id. -/
def dropGuard (s : State α) (id : CorrelationId) : State α := (flagged s (.unregister id)).2

/-- The wait that the last registration of an id gave. -/
def handle? (s : State α) (id : CorrelationId) : Option (Nat × Wait α) := do
  let number ← s.handles.lookup id
  return (number, ← s.clock.state.registry.wait? number)

/-- Changes a wait directly and lets all tasks go on. -/
def setWait (s : State α) (number : Nat) (w : Wait α) : State α :=
  { s with clock := s.clock.update fun c =>
      settled { c with registry := c.registry.setWait number w } }

/-- One step; `none` for a label that names no call. -/
def step (s : State α) : Step α → Option (Answer α × State α)
  | .nextId =>
    let (id, r) := s.clock.state.registry.takeId
    some (.id id, { s with clock := s.clock.update fun c => { c with registry := r } })
  | .register id expected =>
    match register s id expected with
    | (.ok number, s) =>
      some (.expected (.ok expected),
        { s with handles := (id, number) :: s.handles.filter (·.1 ≠ id) })
    | (.error e, s) => some (.expected (.error e), s)
  | .scoped id expected =>
    match register s id expected with
    | (.ok _, s) =>
      let s := if id ∈ s.guards then dropGuard s id else { s with guards := id :: s.guards }
      some (.guarded (.ok id), s)
    | (.error e, s) => some (.guarded (.error e), s)
  | .dropScoped id =>
    if id ∈ s.guards then
      some (.flag true, dropGuard { s with guards := s.guards.erase id } id)
    else some (.flag false, s)
  | .offer id item => some (flagged s (.offer id item))
  | .unregister id => some (flagged s (.unregister id))
  | .waitFor id timeout =>
    let (task, clock) := spawn s.clock id timeout
    some (joined task { s with clock })
  | .spawnWait label id timeout =>
    let (task, clock) := spawn s.clock id timeout
    some (.nothing, { s with clock, labels := (label, task) :: s.labels.filter (·.1 ≠ label) })
  | .join label => do
    let task ← s.labels.lookup label
    return joined task { s with labels := s.labels.filter (·.1 ≠ label) }
  | .cancel label => do
    let task ← s.labels.lookup label
    let s := { s with labels := s.labels.filter (·.1 ≠ label) }
    match outcome? task s.clock.state with
    | some result => return (.replies result, s)
    | none =>
      let clock := s.clock.update fun c => settled ((c.step (.cancel task)).getD c)
      return (.cancelled, { s with clock })
  | .spawnOffer delay id item =>
    let clock := s.clock.after delay (.offer id item)
    some (.nothing, { s with clock := sleep 0 clock })
  | .sleep delay => some (.nothing, { s with clock := sleep delay s.clock })
  | .handle id =>
    match handle? s id with
    | some (_, w) => some (.state w.accepted w.isComplete w.expected, s)
    | none => some (.nothing, s)
  | .handleOffer id item =>
    match handle? s id with
    | some (number, w) =>
      let (accepted, w) := w.offer item
      some (.flag accepted, setWait s number w)
    | none => some (.nothing, s)
  | .handleClose id =>
    match handle? s id with
    | some (number, w) => some (.nothing, setWait s number w.close)
    | none => some (.nothing, s)

end ScatterGather.Rehearsal.Registration
