/-!
# A bounded pool of permits

A pool gives at most `size` permits at a time. A task that asks while none is free queues, and a
permit that comes back goes to the first task in the queue at once, before that task has noticed.
So while tasks queue no permit is free, and free and held permits always add up to the size.
-/

namespace ScatterGather

/-- Permits, and the tasks that hold or want one. -/
structure Pool where
  size : Nat
  /-- The permits that nobody holds. -/
  free : Nat
  /-- The tasks that want a permit, the first in front. -/
  queue : List Nat
  /-- The tasks that hold a permit. -/
  holders : List Nat
deriving DecidableEq, Inhabited, Repr

namespace Pool

/-- The greatest number of permits a pool can have. -/
def maxPermits : Nat := (1 <<< 61) - 1

/-- A pool of at least one permit. -/
def ofSize (size : Nat) : Pool := ⟨max size 1, max size 1, [], []⟩

/-- A pool of at least one permit, unless there would be too many. -/
def ofSize? (size : Nat) : Option Pool :=
  if max size 1 ≤ maxPermits then some (ofSize size) else none

/-- The task holds a permit. -/
def holds (p : Pool) (task : Nat) : Bool := p.holders.contains task

/-- A task asks for a permit. -/
def request (p : Pool) (task : Nat) : Pool :=
  if 0 < p.free then { p with free := p.free - 1, holders := p.holders ++ [task] }
  else { p with queue := p.queue ++ [task] }

/-- A permit comes back: the first task in the queue gets it. -/
def pass (p : Pool) : Pool :=
  match p.queue with
  | [] => { p with free := p.free + 1 }
  | next :: rest => { p with queue := rest, holders := p.holders ++ [next] }

/-- A task gives its permit back, or stops wanting one. -/
def release (p : Pool) (task : Nat) : Pool :=
  if p.holds task then ({ p with holders := p.holders.erase task } : Pool).pass
  else { p with queue := p.queue.erase task }

end Pool

end ScatterGather
