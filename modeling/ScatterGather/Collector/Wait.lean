/-!
# Waiting for a number of replies

A `Wait` keeps replies in the order in which it accepts them until it has as many as it expects.
Then it is complete, and whoever takes its replies gets all of them, once. A wait that is closed
before it is complete stays so and accepts nothing more.

Calls that wait are known by number. A call that finds the wait incomplete takes the wake-up that
was left for it, or queues for the next one; completing the wait leaves one wake-up, which goes to
the first call in the queue. The stages of such a call (`WaitStage`) are the places between which
other tasks may run.
-/

namespace ScatterGather

/-- How far a wait has come. -/
inductive WaitStatus where
  /-- Replies are accepted. -/
  | collecting
  /-- All replies are there and have not been taken. -/
  | complete
  /-- All replies have been taken. -/
  | delivered
  /-- Given up before it was complete. -/
  | closed
deriving DecidableEq, Inhabited, Repr

/-- The replies of one statement, as far as they have come. -/
structure Wait (α : Type) where
  expected : Nat
  /-- The replies not yet taken, in the order of their acceptance. -/
  collected : List α
  /-- The number of replies accepted so far. -/
  accepted : Nat
  status : WaitStatus
  /-- A call has claimed the wait for itself. -/
  claimed : Bool
  /-- A wake-up has been left for the next call that would queue. -/
  wakeUp : Bool
  /-- The calls that queue, the first in front. -/
  queue : List Nat
  /-- The calls that have been woken and have not gone on. -/
  woken : List Nat
deriving Inhabited

namespace Wait

/-- A wait for so many replies; for none it is complete at once. The room for them is asked for
here; where there can be none the program breaks off, and there is no wait. -/
def new (expected : Nat) : Wait α :=
  { expected, collected := [], accepted := 0
    status := if expected = 0 then .complete else .collecting
    claimed := false, wakeUp := false, queue := [], woken := [] }

/-- All replies have been there, taken or not. -/
def isComplete (w : Wait α) : Bool := w.status = .complete || w.status = .delivered

/-- Accepts a reply while collecting, and is complete with the last one expected. -/
def append (w : Wait α) (item : α) : Bool × Wait α :=
  if w.status = .collecting then
    (true, { w with
      collected := w.collected ++ [item]
      accepted := w.accepted + 1
      status := if w.expected ≤ w.accepted + 1 then .complete else .collecting })
  else (false, w)

/-- Leaves a wake-up, or gives it to the first call in the queue. -/
def wakeOne (w : Wait α) : Wait α :=
  match w.queue with
  | [] => { w with wakeUp := true }
  | call :: rest => { w with queue := rest, woken := w.woken ++ [call] }

/-- Offers a reply and wakes a call when it was the last one expected, with nothing in between. -/
def offer (w : Wait α) (item : α) : Bool × Wait α :=
  let (accepted, w') := w.append item
  (accepted, if accepted && w'.status = .complete then w'.wakeOne else w')

/-- Gives up, unless all replies are there. -/
def close (w : Wait α) : Wait α :=
  if w.status = .collecting then { w with status := .closed } else w

/-- Takes the replies of a complete wait. -/
def take? (w : Wait α) : Option (List α) × Wait α :=
  if w.status = .complete then
    (some w.collected, { w with collected := [], status := .delivered })
  else (none, w)

/-- Claims the wait, unless it has been claimed. -/
def claim (w : Wait α) : Bool × Wait α := (!w.claimed, { w with claimed := true })

/-- Leaves the queue; a wake-up that the call had already got goes to the next one. -/
def leave (w : Wait α) (call : Nat) : Wait α :=
  if call ∈ w.woken then ({ w with woken := w.woken.erase call } : Wait α).wakeOne
  else { w with queue := w.queue.erase call }

end Wait

/-- Where a waiting call stands. -/
inductive WaitStage (α : Type) where
  /-- About to look whether the wait is complete. -/
  | checking
  /-- It was not: about to take the wake-up that was left, or to queue. -/
  | parking
  /-- In the queue, or woken from it. -/
  | parked
  /-- Past the deadline: about to close the wait. -/
  | closing
  /-- Past the deadline and closed: about to look once more. -/
  | lastLook
  /-- Ended, with the replies or without. -/
  | ended (items : Option (List α))
deriving Inhabited

namespace WaitStage

/-- The next step of a call by itself; `none` while it queues and when it has ended. -/
def advance (call : Nat) (w : Wait α) : WaitStage α → Option (WaitStage α × Wait α)
  | .checking =>
    match w.take? with
    | (some items, w') => some (.ended (some items), w')
    | (none, w') => some (.parking, w')
  | .parking =>
    if w.wakeUp then some (.checking, { w with wakeUp := false })
    else some (.parked, { w with queue := w.queue ++ [call] })
  | .parked =>
    if call ∈ w.woken then some (.checking, { w with woken := w.woken.erase call }) else none
  | .closing => some (.lastLook, w.close)
  | .lastLook => some (.ended w.take?.1, w.take?.2)
  | .ended _ => none

/-- The deadline of a call passes while it queues. -/
def expire (call : Nat) (w : Wait α) : WaitStage α → Option (WaitStage α × Wait α)
  | .parked => some (.closing, w.leave call)
  | _ => none

/-- A call is given up while it queues. -/
def abandon? (call : Nat) (w : Wait α) : WaitStage α → Option (Wait α)
  | .parked => some (w.leave call)
  | _ => none

end WaitStage

/-! ### Calls on one wait -/

/-- A wait with the calls that wait on it, by number. -/
structure SharedWait (α : Type) where
  wait : Wait α
  calls : List (WaitStage α)
  /-- The last reply has been accepted and its offer is about to wake a call. -/
  wakeOwed : Bool
deriving Inhabited

/-- What tasks that hold the same wait may do. -/
inductive WaitAction (α : Type) where
  | offer (item : α)
  /-- The offer that completed the wait wakes a call. -/
  | wake
  | close
  /-- A new call begins to wait. -/
  | call
  /-- A call takes its next step. -/
  | advance (call : Nat)
  /-- The deadline of a call passes. -/
  | expire (call : Nat)

namespace SharedWait

/-- A wait on which nobody waits yet. -/
def new (expected : Nat) : SharedWait α := ⟨.new expected, [], false⟩

/-- Puts what a step of a call gave. -/
def put (s : SharedWait α) (call : Nat) : WaitStage α × Wait α → SharedWait α
  | (stage, w) => { s with wait := w, calls := s.calls.set call stage }

/-- One step; `none` when it is not possible. -/
def step (s : SharedWait α) : WaitAction α → Option (SharedWait α)
  | .offer item =>
    let (accepted, w) := s.wait.append item
    some { s with wait := w, wakeOwed := s.wakeOwed || (accepted && w.status = .complete) }
  | .wake => if s.wakeOwed then some { s with wait := s.wait.wakeOne, wakeOwed := false } else none
  | .close => some { s with wait := s.wait.close }
  | .call => some { s with calls := s.calls ++ [.checking] }
  | .advance call => do
    let stage ← s.calls[call]?
    return s.put call (← stage.advance call s.wait)
  | .expire call => do
    let stage ← s.calls[call]?
    return s.put call (← stage.expire call s.wait)

/-- Steps in order; `none` when one is not possible. -/
def run (s : SharedWait α) (actions : List (WaitAction α)) : Option (SharedWait α) :=
  actions.foldlM step s

end SharedWait

end ScatterGather
