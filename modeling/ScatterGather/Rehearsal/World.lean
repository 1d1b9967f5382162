import ScatterGather.Rehearsal.Agenda
import ScatterGather.Rehearsal.Script
import ScatterGather.Service

/-!
# Rehearsing an engine

A service, the jobs that a caller runs with it, and data sources that follow a script.
The caller's jobs go on first, each as far as it can; then one task beside them, as far as it
can, and so on until nothing can go on any more. Only then time passes.
-/

namespace ScatterGather.Rehearsal

/-- What a job is for. -/
inductive Errand where
  /-- A statement from end to end, with the transaction it brings. -/
  | statement (session : Option Http.SessionState)
  /-- The dispatch of a route alone. -/
  | dispatch (keys : Bool)
deriving Inhabited

/-- Where a job stands. -/
inductive JobStage where
  | fresh
  /-- Its statement has entered the service. -/
  | entered (number : Nat)
  /-- Its call of the engine is under way. -/
  | dispatched (call : Nat)
  | responded (r : Except ExecutionError Response)
  /-- Given up. -/
  | dropped
deriving Inhabited

/-- A route that the caller has executed. -/
structure Job where
  route : Route
  errand : Errand
  stage : JobStage := .fresh
deriving Inhabited

/-- A statement that has reached a data source. -/
structure Sending where
  time : Nat
  source : String
  sql : String
  options : StatementOptions
  /-- The correlation id and the unit index, over a channel. -/
  address : Option (CorrelationId × UInt64)

/-- What happens at a time. -/
inductive Event where
  /-- A connection answers. -/
  | answer (who : Runner)
  /-- A channel delivers a reply, so many times. -/
  | deliver (frame : ReplyFrame) (copies : Nat)
  /-- The deadline of a task of the collector passes. -/
  | expire (task : Nat)
  /-- The caller gives up. -/
  | giveUp

/-- The service, the caller's jobs, and what has happened that nobody has noticed yet. -/
structure World where
  service : Service
  /-- The jobs of the caller's current step. -/
  jobs : List Job
  /-- Those whose connection has answered. -/
  answered : List Runner
  /-- Replies that have come in, and how often each. -/
  delivered : List (ReplyFrame × Nat)
  /-- Tasks of the collector whose deadline has passed. -/
  expired : List Nat
  /-- The caller has given up. -/
  gaveUp : Bool
  sent : List Sending
  /-- More steps than all jobs so far need. -/
  budget : Nat

/-- A world with its clock. -/
abbrev Clock := Clocked World Event

namespace World

/-- A service that has not been used. -/
def new (service : Service) : World := ⟨service, [], [], [], [], false, [], 0⟩

/-- The engine of the service. -/
def engine (w : World) : Engine := w.service.engine

/-- Puts another engine in the place of the one there is. -/
def setEngine (w : World) (engine : Engine) : World :=
  { w with service := { w.service with engine } }

/-- Something happens; it is noticed later. -/
def mark (e : Event) (w : World) : World :=
  match e with
  | .answer who => { w with answered := w.answered ++ [who] }
  | .deliver frame copies => { w with delivered := w.delivered ++ [(frame, copies)] }
  | .expire task => { w with expired := w.expired ++ [task] }
  | .giveUp => { w with gaveUp := true }

/-- Puts a job at a stage. -/
def setJob (w : World) (number : Nat) (stage : JobStage) : World :=
  { w with jobs := w.jobs.modify number fun j => { j with stage } }

/-- What a job gave as a statement. -/
def result? (w : World) (j : Job) : Option StatementResult :=
  match j.stage with
  | .entered number => do (← w.service.statements[number]?).result?
  | _ => none

/-- The job is over. -/
def isOverAt (w : World) (j : Job) : Bool :=
  match j.stage with
  | .fresh | .dispatched _ => false
  | .entered number =>
    w.service.statements[number]?.any fun r => r.result?.isSome || r.isDropped
  | .responded _ | .dropped => true

/-- The caller's jobs are over. -/
def isOver (w : World) : Bool := w.jobs.all w.isOverAt

/-- The call of a job that is under way. -/
def callOf? (w : World) (j : Job) : Option Nat :=
  match j.stage with
  | .entered number => do (← w.service.statements[number]?).call?
  | .dispatched call => some call
  | _ => none

/-- A step of the service. -/
def serviceStep (w : World) (a : ServiceAction) : Option World := do
  return { w with service := ← w.service.step a }

/-- A step of a job without its call: it enters, goes on by itself, or takes what the call gave. -/
def jobStep (w : World) (number : Nat) (j : Job) : Option World :=
  match j.stage, j.errand with
  | .fresh, .statement session => do
    let entered ← w.serviceStep (.enter ⟨j.route, session⟩)
    return entered.setJob number (.entered w.service.statements.length)
  | .fresh, .dispatch keys =>
    some ((w.setEngine (w.engine.begin j.route keys)).setJob number
      (.dispatched w.engine.callCount))
  | .entered statement, _ => do w.serviceStep (← w.service.next? statement)
  | .dispatched call, _ => do
    match ← w.engine.ending? call with
    | .result r => return w.setJob number (.responded r)
    | _ => return w.setJob number .dropped
  | _, _ => none

end World

/-! ### Time -/

/-- Something happens after a delay. -/
def later (c : Clock) (delay : Nat) (e : Event) : Clock :=
  if delay = 0 then c.update (World.mark e) else c.after delay e

/-- Puts another state in the place of the one there is. -/
def put (c : Clock) (w : World) : Clock := { c with state := w }

/-- A statement has reached its data source. -/
def noteSent (c : Clock) (source sql : String) (options : StatementOptions)
    (address : Option (CorrelationId × UInt64)) : Clock :=
  c.update fun w => { w with sent := w.sent ++ [⟨c.now, source, sql, options, address⟩] }

/-! ### Over connections -/

/-- The next step of a call or a task over connections. -/
def advanceConnection (script : Script) (c : Clock) (e : ConnectionEngine) (who : Runner) :
    Option Clock := do
  let step (a : ConnectionAction) : Option Clock :=
    (c.state.serviceStep (.connection a)).map (put c)
  match ← e.next? who with
  | .act a => step a
  | .acquire call source => step (.acquired call (script.refusal source))
  | .send _ source ⟨u, options⟩ =>
    let c := noteSent (← step (.send who)) source u.sql options none
    return later c (script.delay u.sql) (.answer who)
  | .receive _ _ ⟨u, _⟩ =>
    if c.state.answered.contains who then
      let w ← c.state.serviceStep (.connection (.answer who (script.answer u.sql)))
      return put c { w with answered := w.answered.erase who }
    else none

/-! ### Over channels -/

/-- The next step of a request that a channel takes. -/
def advanceSend (script : Script) (c : Clock) (call : Nat) (q : Request) : Option Clock := do
  let failure := script.failures.lookup q.sql
  let c := put c (← c.state.serviceStep (.forward (.sent call failure)))
  if failure.isSome || script.silent.contains q.sql then return c
  let copies := (script.copies.lookup q.sql).getD 1
  return later c (script.delay q.sql) (.deliver (script.frame q) copies)

/-- The next step of a task of the collector that a call waits for. -/
def advanceCollected (c : Clock) (task : Nat) : Option Clock := do
  match c.state.serviceStep (.forward (.collector (.advance task))) with
  | some w => return put c w
  | none =>
    if c.state.expired.contains task then
      let w ← c.state.serviceStep (.forward (.collector (.expire task)))
      return put c { w with expired := w.expired.erase task }
    else none

/-- The next step of a call over channels. -/
def advanceForward (script : Script) (c : Clock) (e : ForwardEngine) (call : Nat) :
    Option Clock := do
  let step (a : ForwardAction) : Option Clock := (c.state.serviceStep (.forward a)).map (put c)
  match ← e.next? call with
  | .act a => step a
  | .acquire source => step (.acquired call (script.refusal source))
  | .send source q =>
    let options := ⟨q.returnGeneratedKeys, q.captureMetadata, q.fetchSize⟩
    return noteSent (← step (.send call)) source q.sql options
      (some (q.correlationId, q.unitIndex))
  | .transmit _ q => advanceSend script c call q
  | .await =>
    return later (← step (.await call)) e.settings.timeout.millis
      (.expire e.collector.tasks.length)
  | .collect task => advanceCollected c task

/-- The replies that have come in first are offered. -/
def offerDelivered (c : Clock) (e : ForwardEngine) : Option Clock :=
  match c.state.delivered with
  | [] => none
  | (frame, copies) :: rest =>
    let e := (List.range copies).foldl (fun e _ => e.offer frame) e
    some (put c { c.state.setEngine (.forward e) with delivered := rest })

/-! ### All together -/

/-- The next step of a call. -/
def advanceCall (script : Script) (call : Nat) (c : Clock) : Option Clock :=
  match c.state.engine with
  | .connection e => advanceConnection script c e (.call call)
  | .forward e => advanceForward script c e call

/-- The next step of a job. -/
def advanceJob (script : Script) (c : Clock) (number : Nat) : Option Clock := do
  let j ← c.state.jobs[number]?
  match c.state.jobStep number j with
  | some w => return put c w
  | none => advanceCall script (← c.state.callOf? j) c

/-- The jobs go on in turn, each as far as it can. -/
def advanceJobs (script : Script) (c : Clock) : Clock :=
  (List.range c.state.jobs.length).foldl
    (fun c number => finish (advanceJob script) number c.state.budget c) c

/-- A job that is not over is given up, and its call cleans up behind it. -/
def dropJob (script : Script) (c : Clock) (number : Nat) : Clock :=
  match c.state.jobs[number]?.bind c.state.callOf? with
  | some call =>
    let c := c.update fun w => w.setEngine (w.engine.drop call)
    finish (advanceJob script) number c.state.budget c
  | none => c

/-- What the caller does when it has given up. -/
def dropJobs (script : Script) (c : Clock) : Clock :=
  if c.state.gaveUp then (List.range c.state.jobs.length).foldl (dropJob script) c else c

/-- The tasks beside the caller: one of them goes on as far as it can. -/
def advanceOther (script : Script) (c : Clock) : Option Clock :=
  match c.state.engine with
  | .connection e =>
    let advance (c : Clock) (task : Nat) : Option Clock :=
      match c.state.engine with
      | .connection e => advanceConnection script c e (.task task)
      | .forward _ => none
    (List.range e.workers.tasks.length).findSome? fun task =>
      (advance c task).map (finish advance task c.state.budget)
  | .forward e => offerDelivered c e

/-- Everything goes on as far as it can, at most `fuel` tasks in turn. -/
def quiet (script : Script) : Nat → Clock → Clock
  | 0, c => c
  | fuel + 1, c =>
    let c := dropJobs script (advanceJobs script c)
    match advanceOther script c with
    | some c => quiet script fuel c
    | none => c

/-- Everything goes on as far as it can. -/
def settled (script : Script) (c : Clock) : Clock := quiet script (c.state.budget + 1) c

/-- Something happens; when it is the last that happens at this time, everything goes on. -/
def fire (script : Script) (e : Event) (c : Clock) : Clock :=
  let c := c.update (World.mark e)
  match c.agenda with
  | (time, _) :: _ => if time ≤ c.now then c else settled script c
  | [] => settled script c

/-- More entries than the agenda will ever have from here. -/
def Clock.horizon (c : Clock) : Nat := c.agenda.length + c.state.budget

/-- The caller's jobs begin, and time passes until they are over. -/
def perform (script : Script) (jobs : List Job) (giveUpAfter : Option Nat) (c : Clock) : Clock :=
  let units := total (jobs.map fun j => j.route.units.length + 1)
  let c := c.update fun w => { w with jobs, gaveUp := false, budget := w.budget + 32 * units }
  let c := match giveUpAfter with
    | some delay => later c delay .giveUp
    | none => c
  let c := settled script c
  c.await (fire script) World.isOver c.horizon

/-- Time passes. -/
def pass (script : Script) (delay : Nat) (c : Clock) : Clock :=
  c.sleep (fire script) c.horizon delay

end ScatterGather.Rehearsal
