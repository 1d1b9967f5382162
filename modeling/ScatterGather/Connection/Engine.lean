import ScatterGather.Connection.GroupRun
import ScatterGather.Dispatch.Acquisition
import ScatterGather.Worker.Task

/-!
# Executing a route over connections of its own

A call acquires a connection for each group, then runs the first group itself and hands the others
to tasks of the worker pool, one task a group. When its own group is through it collects the tasks
in the order of their groups. The first failure it meets ends it, and the tasks it has not collected
are told to stop. A call that is given up gives back its own connection and leaves its tasks alone.

`ConnectionEngine.step` says what can happen next, one action at a time: calls and tasks of all
statements share the pool, and answers may come in any order. A failing call tells its tasks to stop
in the same action. One of them may be at work at that moment and go on to its next wait; that is
the run in which it gets there first and the call fails behind it.
-/

namespace ScatterGather

/-- How an engine uses its connections. -/
structure ConnectionSettings where
  strategy : ConnectionStrategy
  /-- Every statement that is sent is reported. -/
  showSql : Bool
deriving Inhabited

/-- A statement as it is sent over a connection. -/
structure SentStatement where
  unit : PhysicalUnit
  options : StatementOptions
deriving DecidableEq, Inhabited, Repr

/-- What comes back for a statement. -/
inductive ConnectionAnswer where
  | result (r : Except ExecutionError Outcome)
  /-- Who waits for it breaks, be it for want of room for the rows that have come. -/
  | panic (message : String)

/-- What a task of the pool works on: a group of a call, and what has come of it. -/
structure GroupTask where
  call : Nat
  run : GroupRun
  result : Option (Except ExecutionError (List Success))
deriving Inhabited

/-- Where a call stands. -/
inductive ConnectionStage where
  /-- Acquiring connections. -/
  | acquiring (a : Acquisition)
  /-- Running the first group, the tasks of the others having been spawned. -/
  | running (run : GroupRun) (tasks : List Nat)
  /-- Collecting the tasks, with the outcomes of the groups collected so far. -/
  | collecting (outcomes : List Success) (tasks : List Nat)
  | ended (result : Except ExecutionError Response)
  /-- Its own group broke. -/
  | panicked (message : String)
  /-- Given up by its caller. -/
  | dropped

namespace ConnectionStage

/-- The call is over. -/
def isOver : ConnectionStage → Bool
  | .ended _ | .panicked _ | .dropped => true
  | _ => false

end ConnectionStage

/-- Who runs a group: a call its first one, a task its only one. -/
inductive Runner where
  | call (number : Nat)
  | task (number : Nat)
deriving DecidableEq, Inhabited, Repr

/-- The calls and tasks of an engine, and what has happened. -/
structure ConnectionEngine where
  settings : ConnectionSettings
  calls : List ConnectionStage
  workers : Workers GroupTask
  events : List (DispatchEvent SentStatement)
  log : List LogLine

/-- What can happen next. -/
inductive ConnectionAction where
  /-- A new call begins. -/
  | begin (route : Route) (keys : Bool)
  /-- A call asks for its next connection. -/
  | ask (call : Nat)
  /-- The connection is there, or is refused. -/
  | acquired (call : Nat) (refusal : Option ExecutionError)
  /-- A call that holds all its connections begins to run its groups. -/
  | launch (call : Nat)
  | send (who : Runner)
  | answer (who : Runner) (a : ConnectionAnswer)
  /-- All units of a group have been answered. -/
  | finish (who : Runner)
  /-- A call collects its next task, or has collected all. -/
  | collect (call : Nat)
  /-- A task asks for a permit. -/
  | request (task : Nat)
  /-- A task that holds a permit begins. -/
  | start (task : Nat)
  /-- A task that was told to stop ends. -/
  | reap (task : Nat)
  /-- The caller gives a call up. -/
  | drop (call : Nat)

namespace ConnectionEngine

/-- An engine without calls. -/
def new (settings : ConnectionSettings) (pool : Pool) : ConnectionEngine :=
  ⟨settings, [], .ofPool pool, [], []⟩

/-- Puts a call at a stage. -/
def setCall (s : ConnectionEngine) (call : Nat) (stage : ConnectionStage) : ConnectionEngine :=
  { s with calls := s.calls.set call stage }

/-- Records events. -/
def record (s : ConnectionEngine) (events : List (DispatchEvent SentStatement)) :
    ConnectionEngine :=
  { s with events := s.events ++ events }

/-- Records reports. -/
def report (s : ConnectionEngine) (lines : List LogLine) : ConnectionEngine :=
  { s with log := s.log ++ lines }

/-- Tells tasks to stop. -/
def abort (s : ConnectionEngine) (tasks : List Nat) : ConnectionEngine :=
  { s with workers := tasks.foldl Workers.abort s.workers }

/-- A unit as it is sent. -/
def statement (s : ConnectionEngine) (u : PhysicalUnit) : SentStatement :=
  ⟨u, s.settings.strategy.options u u.captures⟩

/-- A statement goes out. -/
def sends (s : ConnectionEngine) (call : Nat) (source : String) (u : PhysicalUnit) :
    ConnectionEngine :=
  (s.record [.sent call source (s.statement u)]).report (sqlLines s.settings.showSql u)

/-- The first stage of a call: one without units is over at once. -/
def firstStage (route : Route) (keys : Bool) : ConnectionStage :=
  if route.units.isEmpty then .ended (.ok .empty)
  else .acquiring (.ofGroups (route.groups keys))

/-- A call that holds all its connections runs the first group itself and spawns the others. -/
def launch (s : ConnectionEngine) (call : Nat) (held : List UnitGroup) : ConnectionEngine :=
  match held with
  | [] => s.setCall call (.ended (.error (.invalidState .noGroups)))
  | first :: others =>
    let tasks := List.range' s.workers.tasks.length others.length
    let workers := others.foldl
      (fun w g => w.spawn ⟨call, .ofGroup g, none⟩) s.workers
    { s with workers }.setCall call (.running (.ofGroup first) tasks)

/-- A call ends with a failure; the tasks are told to stop. -/
def fail (s : ConnectionEngine) (call : Nat) (e : ExecutionError) (tasks : List Nat) :
    ConnectionEngine :=
  (s.abort tasks).setCall call (.ended (.error e))

/-- The answer to a statement of a call's own group. -/
def answerCall (s : ConnectionEngine) (call : Nat) (run : GroupRun) (tasks : List Nat) :
    ConnectionAnswer → Option ConnectionEngine
  | .panic message =>
    if run.awaited.isSome then
      some ((s.record [.released call run.dataSource]).setCall call (.panicked message))
    else none
  | .result r => do
    match ← run.receive? s.settings.strategy r with
    | .ok run => return s.setCall call (.running run tasks)
    | .error e => return (s.record [.released call run.dataSource]).fail call e tasks

/-- A task ends: its connection is given back, and its permit. -/
def endTask (s : ConnectionEngine) (task : Nat) (t : GroupTask)
    (result : Option (Except ExecutionError (List Success))) (how : WorkerEnd) :
    Option ConnectionEngine := do
  let w ← s.workers.work? task fun t => some { t with result }
  let w ← w.finish? task how
  return { s with workers := w }.record [.released t.call t.run.dataSource]

/-- The answer to a statement of a task's group. -/
def answerTask (s : ConnectionEngine) (task : Nat) (t : GroupTask) :
    ConnectionAnswer → Option ConnectionEngine
  | .panic message => do
    let _ ← t.run.awaited
    s.endTask task t none (.panicked message)
  | .result r => do
    match ← t.run.receive? s.settings.strategy r with
    | .ok run =>
      let w ← s.workers.work? task fun t => some { t with run }
      return { s with workers := w }
    | .error e => s.endTask task t (some (.error e)) .finished

/-- What collecting a task that has ended gives. -/
def collected (t : Worker GroupTask) : Option (Except ExecutionError (List Success)) :=
  match t.stage with
  | .ended .finished => t.body.result
  | .ended (.panicked message) => some (.error (.unknown (.taskPanicked message)))
  | .ended .aborted => some (.error (.unknown .taskCancelled))
  | _ => none

/-- A call collects its next task, or ends when there is none left. -/
def collect (s : ConnectionEngine) (call : Nat) (outcomes : List Success) :
    List Nat → Option ConnectionEngine
  | [] =>
    some ((s.report (Response.warnings outcomes)).setCall call
      (.ended (Response.ofUnits outcomes)))
  | task :: rest => do
    let t ← s.workers.tasks[task]?
    match ← collected t with
    | .ok more => return s.setCall call (.collecting (outcomes ++ more) rest)
    | .error e => return s.fail call e rest

/-- The body of a task that runs. -/
def running? (s : ConnectionEngine) (task : Nat) : Option GroupTask :=
  (s.workers.at? task .running).map (·.body)

/-- A call is given up: what it holds itself is given back. -/
def drop? (s : ConnectionEngine) (call : Nat) : ConnectionStage → Option ConnectionEngine
  | .acquiring a => some ((s.record (Acquisition.releases call a.held)).setCall call .dropped)
  | .running run _ => some ((s.record [.released call run.dataSource]).setCall call .dropped)
  | .collecting _ _ => some (s.setCall call .dropped)
  | _ => none

/-- One step; `none` when it is not possible. -/
def step (s : ConnectionEngine) : ConnectionAction → Option ConnectionEngine
  | .begin route keys => some { s with calls := s.calls ++ [firstStage route keys] }
  | .ask call => do
    match ← s.calls[call]? with
    | .acquiring a =>
      let (source, a) ← a.ask?
      return (s.record [.requested call source]).setCall call (.acquiring a)
    | _ => none
  | .acquired call refusal => do
    match ← s.calls[call]? with
    | .acquiring a =>
      let (source, granted) ← a.grant?
      match refusal with
      | none => return (s.record [.acquired call source]).setCall call (.acquiring granted)
      | some e => return (s.record (Acquisition.releases call a.held)).fail call e []
    | _ => none
  | .launch call => do
    match ← s.calls[call]? with
    | .acquiring a => if a.complete then some (s.launch call a.held) else none
    | _ => none
  | .send (.call call) => do
    match ← s.calls[call]? with
    | .running run tasks =>
      let (u, run') ← run.send?
      return (s.sends call run.dataSource u).setCall call (.running run' tasks)
    | _ => none
  | .send (.task task) => do
    let t ← s.running? task
    let (u, run) ← t.run.send?
    let w ← s.workers.work? task fun t => some { t with run }
    return { s with workers := w }.sends t.call t.run.dataSource u
  | .answer (.call call) a => do
    match ← s.calls[call]? with
    | .running run tasks => s.answerCall call run tasks a
    | _ => none
  | .answer (.task task) a => do s.answerTask task (← s.running? task) a
  | .finish (.call call) => do
    match ← s.calls[call]? with
    | .running run tasks =>
      if run.complete then
        some ((s.record [.released call run.dataSource]).setCall call
          (.collecting run.outcomes tasks))
      else none
    | _ => none
  | .finish (.task task) => do
    let t ← s.running? task
    if t.run.complete then s.endTask task t (some (.ok t.run.outcomes)) .finished else none
  | .collect call => do
    match ← s.calls[call]? with
    | .collecting outcomes tasks => s.collect call outcomes tasks
    | _ => none
  | .request task => do return { s with workers := ← s.workers.request? task }
  | .start task => do return { s with workers := ← s.workers.start? task }
  | .reap task => do
    let t ← s.workers.tasks[task]?
    let w ← s.workers.reap? task
    return { s with workers := w }.record [.released t.body.call t.body.run.dataSource]
  | .drop call => do s.drop? call (← s.calls[call]?)

/-- Steps in order; `none` when one is not possible. -/
def run (s : ConnectionEngine) (actions : List ConnectionAction) : Option ConnectionEngine :=
  actions.foldlM step s

end ConnectionEngine

end ScatterGather
