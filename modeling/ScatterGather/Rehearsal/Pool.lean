import ScatterGather.Rehearsal.Agenda
import ScatterGather.Worker.Task

/-!
# Rehearsing tasks on a pool

All tasks are spawned at once; each sleeps its numbers of milliseconds in turn, and breaks at a
number that is none. After one millisecond the free permits are counted and some tasks are told to
stop.
-/

namespace ScatterGather.Rehearsal.Pooling

/-- What a task still has to do, and when it began and ended. -/
structure Body where
  /-- The times still to be slept; none for the point at which the task breaks. -/
  rest : List (Option Nat)
  /-- The task sleeps. -/
  asleep : Bool
  began : Option Nat
  done : Option Nat
deriving Inhabited

/-- What happens at a time. -/
inductive Event where
  /-- A task wakes up. -/
  | wake (task : Nat)
  /-- The free permits are counted, and tasks are told to stop. -/
  | probe (abort : List Nat)

/-- The tasks, and the free permits when they were counted. -/
structure State where
  workers : Workers Body
  counted : Option Nat
deriving Inhabited

/-- The next step of a task at a time: the task's new state, and how long it sleeps when it does. -/
def advance (now : Nat) (s : State) (task : Nat) : Option (State × Option Nat) := do
  let w := s.workers
  let t ← w.tasks[task]?
  let put (w : Workers Body) : State := { s with workers := w }
  if t.aborting then return (put (← w.reap? task), none)
  match t.stage with
  | .fresh => return (put (← w.request? task), none)
  | .queued =>
    let w ← w.start? task
    return (put (← w.work? task fun b => some { b with began := some now }), none)
  | .running =>
    if t.body.asleep then none
    match t.body.rest with
    | [] =>
      let w ← w.work? task fun b => some { b with done := some now }
      return (put (← w.finish? task .finished), none)
    | none :: _ => return (put (← w.finish? task (.panicked "")), none)
    | some delay :: rest =>
      return (put (← w.work? task fun b => some { b with rest, asleep := true }), some delay)
  | .ended _ => none

/-- `advance` on the clock. -/
def advanceClocked (c : Clocked State Event) (task : Nat) : Option (Clocked State Event) := do
  let (s, delay) ← advance c.now c.state task
  let c := { c with state := s }
  return match delay with
    | some delay => c.after delay (.wake task)
    | none => c

/-- Lets all tasks go on as far as they can. -/
def settled (c : Clocked State Event) : Clocked State Event :=
  let tasks := c.state.workers.tasks
  let numbers := total (tasks.map (·.body.rest.length))
  settle advanceClocked (fun c => c.state.workers.tasks.length)
    (stepsPerTask * (tasks.length + 1) + 2 * numbers) c

/-- Lets something happen, and then all tasks go on. -/
def fire (e : Event) (c : Clocked State Event) : Clocked State Event :=
  match e with
  | .wake task =>
    settled (c.update fun s =>
      { s with workers := s.workers.modify task fun t => { t with body.asleep := false } })
  | .probe abort =>
    settled (c.update fun s =>
      ⟨abort.foldl Workers.abort s.workers, some s.workers.pool.free⟩)

/-- What the rehearsal shows. -/
structure Result where
  size : Nat
  freeRunning : Nat
  freeAfter : Nat
  tasks : List (Worker Body)
  time : Nat

/-- Runs tasks to their end. -/
def rehearse (size : Nat) (tasks : List (List (Option Nat))) (abort : List Nat) : Result :=
  let workers := tasks.foldl (fun w rest => w.spawn ⟨rest, false, none, none⟩)
    (Workers.ofPool (.ofSize size))
  let c : Clocked State Event := ⟨0, [(1, .probe abort)], ⟨workers, none⟩⟩
  let events := total (tasks.map List.length) + 2
  let ended (s : State) : Bool :=
    s.counted.isSome && s.workers.tasks.all fun t => t.stage.hasEnded
  let c := (settled c).await fire ended events
  { size := c.state.workers.pool.size
    freeRunning := c.state.counted.getD 0
    freeAfter := c.state.workers.pool.free
    tasks := c.state.workers.tasks
    time := c.now }

end ScatterGather.Rehearsal.Pooling
