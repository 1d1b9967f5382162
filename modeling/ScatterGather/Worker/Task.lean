import ScatterGather.Worker.Pool

/-!
# Tasks on a pool

A task that has been spawned asks for a permit when it first gets to run, goes on when it holds one,
and gives it back when it ends. It may be told to stop at any time; then it does nothing more but
end, wherever it stands. A task that is at work when it is told, on a thread of its own, first comes
to its next wait: that is the run in which it is told there. Tasks are known by their number.
-/

namespace ScatterGather

/-- How a task has ended. -/
inductive WorkerEnd where
  | finished
  | panicked (message : String)
  | aborted
deriving DecidableEq, Inhabited, Repr

/-- Where a task stands. -/
inductive WorkerStage where
  /-- It has not run yet. -/
  | fresh
  /-- It has asked for a permit. -/
  | queued
  /-- It runs on a permit. -/
  | running
  | ended (how : WorkerEnd)
deriving DecidableEq, Inhabited, Repr

namespace WorkerStage

/-- The task has ended. -/
def hasEnded : WorkerStage → Bool
  | .ended _ => true
  | _ => false

end WorkerStage

/-- A task with what it works on. -/
structure Worker (β : Type) where
  stage : WorkerStage
  /-- It has been told to stop. -/
  aborting : Bool
  body : β
deriving Inhabited

/-- A pool with all tasks ever spawned on it, by number. -/
structure Workers (β : Type) where
  pool : Pool
  tasks : List (Worker β)
deriving Inhabited

namespace Workers

/-- A pool without tasks. -/
def ofPool (pool : Pool) : Workers β := ⟨pool, []⟩

/-- Spawns a task. -/
def spawn (w : Workers β) (body : β) : Workers β :=
  { w with tasks := w.tasks ++ [⟨.fresh, false, body⟩] }

/-- Changes a task. -/
def modify (w : Workers β) (task : Nat) (f : Worker β → Worker β) : Workers β :=
  { w with tasks := w.tasks.modify task f }

/-- Puts a task at a stage. -/
def setStage (w : Workers β) (task : Nat) (stage : WorkerStage) : Workers β :=
  w.modify task fun t => { t with stage }

/-- A task that has not been told to stop and stands at the stage. -/
def at? (w : Workers β) (task : Nat) (stage : WorkerStage) : Option (Worker β) := do
  let t ← w.tasks[task]?
  if t.stage = stage ∧ !t.aborting then some t else none

/-- A task asks for a permit. -/
def request? (w : Workers β) (task : Nat) : Option (Workers β) := do
  let _ ← w.at? task .fresh
  return { w.setStage task .queued with pool := w.pool.request task }

/-- A task that holds a permit begins its work. -/
def start? (w : Workers β) (task : Nat) : Option (Workers β) := do
  let _ ← w.at? task .queued
  if w.pool.holds task then some (w.setStage task .running) else none

/-- A running task goes on with its work. -/
def work? (w : Workers β) (task : Nat) (f : β → Option β) : Option (Workers β) := do
  let t ← w.at? task .running
  let body ← f t.body
  return w.modify task fun t => { t with body }

/-- A running task ends and gives its permit back. -/
def finish? (w : Workers β) (task : Nat) (how : WorkerEnd) : Option (Workers β) := do
  let _ ← w.at? task .running
  return { w.setStage task (.ended how) with pool := w.pool.release task }

/-- A task is told to stop. -/
def abort (w : Workers β) (task : Nat) : Workers β :=
  w.modify task fun t => if t.stage.hasEnded then t else { t with aborting := true }

/-- A task that has been told to stop ends and gives back what it has of the pool. -/
def reap? (w : Workers β) (task : Nat) : Option (Workers β) := do
  let t ← w.tasks[task]?
  if t.aborting ∧ !t.stage.hasEnded then
    some { w.setStage task (.ended .aborted) with pool := w.pool.release task }
  else none

end Workers

/-- What may happen to a pool and its tasks. -/
inductive WorkerAction (β : Type) where
  | spawn (body : β)
  | request (task : Nat)
  | start (task : Nat)
  /-- The body of a running task changes. -/
  | work (task : Nat) (body : β)
  | finish (task : Nat) (how : WorkerEnd)
  | abort (task : Nat)
  | reap (task : Nat)

namespace Workers

/-- One step; `none` when it is not possible. -/
def step (w : Workers β) : WorkerAction β → Option (Workers β)
  | .spawn body => some (w.spawn body)
  | .request task => w.request? task
  | .start task => w.start? task
  | .work task body => w.work? task fun _ => some body
  | .finish task how => w.finish? task how
  | .abort task => some (w.abort task)
  | .reap task => w.reap? task

/-- Steps in order; `none` when one is not possible. -/
def run (w : Workers β) (actions : List (WorkerAction β)) : Option (Workers β) :=
  actions.foldlM step w

end Workers

end ScatterGather
