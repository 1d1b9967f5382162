import ScatterGather.Collector.Wait
import ScatterGather.Rehearsal.Agenda

/-!
# Rehearsing a single wait

Steps on one wait that several tasks hold: offers, closing, and calls that wait with a deadline, in
the foreground or beside the other steps.
-/

namespace ScatterGather.Rehearsal.Pending

/-- What happens at a time. -/
inductive Event (α : Type) where
  | expire (call : Nat)
  | offer (item : α)

/-- One step. -/
inductive Step (α : Type) where
  | offer (item : α)
  | close
  /-- Waits, at most so many milliseconds. -/
  | wait (timeout : Nat)
  /-- Begins a call that waits, under a label. -/
  | spawnWait (label : String) (timeout : Nat)
  /-- Waits for a labelled call to end. -/
  | join (label : String)
  | sleep (delay : Nat)
  /-- Offers after a delay. -/
  | spawnOffer (delay : Nat) (item : α)

/-- What a step gives. -/
inductive Answer (α : Type) where
  | nothing
  | flag (b : Bool)
  /-- The replies, or none at the deadline. -/
  | replies (items : Option (List α))

/-- A wait with its clock. -/
abbrev Clock (α : Type) := Clocked (SharedWait α) (Event α)

/-- The wait, its clock, and the labelled calls. -/
structure State (α : Type) where
  clock : Clock α
  labels : List (String × Nat)

/-- A wait at time zero. -/
def State.new (expected : Nat) : State α := ⟨⟨0, [], .new expected⟩, []⟩

/-- Lets all calls go on as far as they can. -/
def settled (s : SharedWait α) : SharedWait α :=
  settle (fun s call => s.step (.advance call)) (fun s => s.calls.length)
    (stepsPerTask * (s.calls.length + 1)) s

/-- Takes a step where it is possible. -/
def act (action : WaitAction α) (s : SharedWait α) : SharedWait α := (s.step action).getD s

/-- Lets something happen, and then all calls go on. -/
def fire (e : Event α) (c : Clock α) : Clock α :=
  c.update fun s =>
    match e with
    | .expire call => settled (act (.expire call) s)
    | .offer item => settled (act .wake (act (.offer item) s))

/-- Lets time pass, with all that happens in it. -/
def sleep (delay : Nat) (c : Clock α) : Clock α := c.sleep fire c.agenda.length delay

/-- What a call that has ended gave. -/
def outcome? (call : Nat) (s : SharedWait α) : Option (Option (List α)) :=
  match s.calls[call]? with
  | some (.ended items) => some items
  | _ => none

/-- Begins a call; its number. -/
def spawn (c : Clock α) (timeout : Nat) :
    Nat × Clock α :=
  let call := c.state.calls.length
  (call, (c.update fun s => settled (act .call s)).after timeout (.expire call))

/-- Lets time pass until a call has ended. -/
def join (call : Nat) (c : Clock α) :
    Option (List α) × Clock α :=
  let c := c.await fire (fun s => (outcome? call s).isSome) c.agenda.length
  ((outcome? call c.state).join, c)

/-- One step; `none` for a label that names no call. -/
def step (s : State α) : Step α → Option (Answer α × State α)
  | .offer item =>
    let accepted := (s.clock.state.wait.append item).1
    some (.flag accepted, { s with clock := fire (.offer item) s.clock })
  | .close =>
    some (.nothing,
      { s with clock := s.clock.update fun w => settled (act .close w) })
  | .wait timeout =>
    let (call, clock) := spawn s.clock timeout
    let (items, clock) := join call clock
    some (.replies items, { s with clock })
  | .spawnWait label timeout =>
    let (call, clock) := spawn s.clock timeout
    some (.nothing, ⟨sleep 0 clock, (label, call) :: s.labels.filter (·.1 ≠ label)⟩)
  | .join label => do
    let call ← s.labels.lookup label
    let (items, clock) := join call s.clock
    return (.replies items, ⟨clock, s.labels.filter (·.1 ≠ label)⟩)
  | .sleep delay => some (.nothing, { s with clock := sleep delay s.clock })
  | .spawnOffer delay item =>
    let clock := s.clock.after delay (.offer item)
    some (.nothing, { s with clock := sleep 0 clock })

end ScatterGather.Rehearsal.Pending
