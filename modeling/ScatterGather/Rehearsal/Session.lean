import ScatterGather.Rehearsal.World

/-!
# Rehearsing a session

A session executes statements, alone or side by side, directly or through the HTTP surface, and
begins and ends its transaction. After each step a minute passes, so that whatever goes on behind it
comes to its end; the `Report` of a step says what the step gave and what has happened meanwhile.
-/

namespace ScatterGather.Rehearsal

/-- What takes time, and can be given up. -/
inductive Call where
  | execute (route : Route)
  /-- The dispatch alone. -/
  | dispatch (route : Route) (keys : Bool)
  /-- Statements side by side. -/
  | parallel (routes : List Route)
  | http (q : Http.Request)
deriving Inhabited

/-- One step. -/
inductive Step where
  | call (c : Call) (giveUpAfter : Option Nat)
  | begin
  | commit
  | rollback
  /-- Offers a reply to the registry. -/
  | offer (frame : ReplyFrame)
  | tables
  | metrics

/-- What a step gives. -/
inductive Answer where
  | nothing
  | flag (b : Bool)
  | text (s : String)
  | versions (entries : List (String × UInt64))
  | statement (r : StatementResult)
  | response (r : Except ExecutionError Response)
  | statements (rs : List StatementResult)
  | http (r : Http.Response)
  | cancelled

/-- The step has failed as a whole. -/
def Answer.failed : Answer → Bool
  | .statement (.error _) | .response (.error _) => true
  | .http r => r.status ≠ 200
  | _ => false

/-- What a session is given. -/
structure Setting where
  mode : DispatchMode
  connectionMode : ConnectionMode
  /-- The size of the worker pool. -/
  workers : Nat
  fetchSize : Option UInt32
  /-- How long replies are waited for. -/
  timeout : Duration
  showSql : Bool
  transactionType : TransactionType
  strategy : MergeStrategy
  dataSources : List String
  /-- The type of a transaction that a request does not name. -/
  requestType : TransactionType
  /-- The steps that begin and end a transaction reach the one that statements run in. -/
  transactionShared : Bool
  /-- The numbers of units of statements that the counters have counted already, each with a
  reload of metadata. -/
  counted : List Nat

namespace Setting

/-- The fetch size of connections where none is given. -/
def defaultFetchSize : UInt32 := 1000

/-- The engine of a setting. -/
def engine (s : Setting) : Engine :=
  match s.mode with
  | .connection =>
    let strategy := .ofMode s.connectionMode (s.fetchSize.getD defaultFetchSize)
    .connection (.new ⟨strategy, s.showSql⟩ (.ofSize s.workers))
  | .forward => .forward (.new ⟨s.timeout, s.fetchSize, s.showSql⟩)

/-- The counters of a setting. -/
def metrics (s : Setting) : Metrics :=
  s.counted.foldl (fun m n => (m.recordStatement n).recordRefresh) {}

/-- The service of a setting. -/
def service (s : Setting) : Service :=
  .new s.engine s.strategy s.transactionType s.requestType
    { Records.empty with metrics := s.metrics }

end Setting

/-- A session. -/
structure Session where
  script : Script
  clock : Clock
  /-- The steps that begin and end a transaction reach the one that statements run in. -/
  transactionShared : Bool
  /-- The size of the pool that the session was given. -/
  workers : Nat
  dataSources : List String

/-- What a step gave, and what has happened meanwhile. -/
structure Report where
  answer : Answer
  /-- The time the step took. -/
  took : Nat
  /-- The statements that have reached a data source, with the time since the step began. -/
  sent : List Sending
  acquired : Nat
  released : Nat
  inFlight : Nat
  discarded : UInt64
  workersFree : Nat
  lines : List LogLine

namespace Session

/-- The time that passes after a step. -/
def afterglow : Nat := 60000

/-- A session at time zero. -/
def new (s : Setting) (script : Script) : Session where
  script := script
  clock := ⟨0, [], .new s.service⟩
  transactionShared := s.transactionShared
  workers := (Pool.ofSize s.workers).size
  dataSources := s.dataSources

/-- The world of the session. -/
def world (s : Session) : World := s.clock.state

/-- The counters as text. -/
def renderMetrics (w : World) : String :=
  w.service.records.metrics.render w.engine.inFlight w.engine.discarded

/-- The job of a statement that brings no transaction. -/
def statementJob (route : Route) : Job := { route, errand := .statement none }

/-- What a job gave as a statement. -/
def result? (w : World) (number : Nat) : Option StatementResult := do w.result? (← w.jobs[number]?)

/-- What a job gave as a dispatch. -/
def response? (w : World) (number : Nat) : Option (Except ExecutionError Response) :=
  match w.jobs[number]? with
  | some ⟨_, _, .responded r⟩ => some r
  | _ => none

/-- Runs jobs to their end. -/
def run (s : Session) (jobs : List Job) (giveUpAfter : Option Nat) : Session :=
  { s with clock := perform s.script jobs giveUpAfter s.clock }

/-- An answer, unless there is none because the step was given up. -/
def orCancelled (f : α → Answer) (a : Option α) : Answer := (a.map f).getD .cancelled

/-- A request to the HTTP surface. -/
def request (s : Session) (q : Http.Request) (giveUpAfter : Option Nat) : Answer × Session :=
  let shown (headOnly : Bool) (r : Http.Response) : Answer × Session :=
    (.http (if headOnly then r.headOnly else r), s)
  match Http.route q with
  | .answered r => (.http r, s)
  | .health headOnly =>
    shown headOnly (.health (Named.name s.world.engine.mode) s.dataSources 0)
  | .metrics headOnly =>
    let w := s.world
    shown headOnly (.metrics w.service.records.metrics w.engine.inFlight w.engine.discarded "0")
  | .execute q =>
    let s := s.run [{ route := q.route, errand := .statement q.session }] giveUpAfter
    (orCancelled (fun r => .http (.ofStatement r)) (result? s.world 0), s)

/-- What takes time. -/
def perform (s : Session) (c : Call) (giveUpAfter : Option Nat) : Answer × Session :=
  match c with
  | .execute route =>
    let s := s.run [statementJob route] giveUpAfter
    (orCancelled .statement (result? s.world 0), s)
  | .dispatch route keys =>
    let s := s.run [{ route, errand := .dispatch keys }] giveUpAfter
    (orCancelled .response (response? s.world 0), s)
  | .parallel routes =>
    let s := s.run (routes.map statementJob) giveUpAfter
    (orCancelled .statements ((List.range routes.length).mapM (result? s.world)), s)
  | .http q => s.request q giveUpAfter

/-- Begins or ends the transaction. -/
def moveTransaction (s : Session) (m : Transaction.Move) : Session :=
  if s.transactionShared then
    { s with clock := s.clock.update fun w => (w.serviceStep (.transaction m)).getD w }
  else s

/-- Offers a reply to the registry, and everybody goes on. -/
def offer (s : Session) (frame : ReplyFrame) : Bool × Session :=
  match s.world.engine with
  | .connection _ => (false, s)
  | .forward e =>
    let e' := e.offer frame
    let accepted := e'.collector.registry.discarded = e.collector.registry.discarded
    (accepted, { s with clock := s.clock.update fun w => w.setEngine (.forward e') })

/-- What a step gives. -/
def act (s : Session) : Step → Answer × Session
  | .call c giveUpAfter => s.perform c giveUpAfter
  | .begin => (.nothing, s.moveTransaction .begin)
  | .commit => (.nothing, s.moveTransaction .commit)
  | .rollback => (.nothing, s.moveTransaction .rollback)
  | .offer frame =>
    let (accepted, s) := s.offer frame
    (.flag accepted, s)
  | .tables => (.versions s.world.service.records.tables.entries, s)
  | .metrics => (.text (renderMetrics s.world), s)

/-- What has been reported, by those who reported it. -/
def logs (w : World) : List (List LogLine) := w.service.records.log :: w.engine.logs

/-- The permits that are free. -/
def workersFree (s : Session) : Nat :=
  match s.world.engine with
  | .connection e => e.workers.pool.free
  | .forward _ => s.workers

/-- The statements of a step. What goes out over a connection just when the step fails may or may
not come out before it is stopped; such statements are left out. -/
def sentDuring (w : World) (answer : Answer) (began took : Nat) (sent : List Sending) :
    List Sending :=
  let since := sent.map fun x => { x with time := x.time - began }
  match w.engine with
  | .connection _ => if answer.failed then since.filter (·.time ≠ took) else since
  | .forward _ => since

/-- One step, and the minute after it. -/
def step (s : Session) (x : Step) : Report × Session :=
  let before := s.world
  let began := s.clock.now
  let (answer, s) := s.act x
  let took := s.clock.now - began
  let s := { s with clock := pass s.script afterglow s.clock }
  let w := s.world
  ({ answer, took
     sent := sentDuring w answer began took (w.sent.drop before.sent.length)
     acquired := w.engine.acquired
     released := w.engine.released
     inFlight := w.engine.inFlight
     discarded := w.engine.discarded
     workersFree := s.workersFree
     lines := (List.zipWith (fun a b => b.drop a.length) (logs before) (logs w)).flatten }, s)

end Session

end ScatterGather.Rehearsal
