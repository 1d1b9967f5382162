import ScatterGather.Server.Journal
import ScatterGather.Server.Link
import ScatterGather.Service
import Std.Sync.Mutex
import Std.Sync.Notify

/-!
# A running service

A service with the links to its data sources. Each statement asks the service what it goes on with,
each call and each task of the pool asks the engine, and does it; a step that is not possible yet is
tried again when something has changed. When nothing is under way the service forgets what is past.
-/

namespace ScatterGather.Server

open Std.Async CommandLine

/-- A link that is held for a call, by the data source it leads to. -/
abbrev HeldKey := Nat × String

/-- What all statements share. -/
structure State where
  service : Service
  /-- The links that nobody uses, the last that was given back in front. -/
  idle : List (String × Link)
  held : List (HeldKey × Link)
  /-- The number of statements and tasks that go on. -/
  active : Nat
  /-- How often the service has forgotten what is past. -/
  era : Nat

/-- A running service. -/
structure Running where
  config : Config
  journal : Journal
  state : Std.Mutex State
  /-- Tells everybody who waits that something has changed. -/
  changed : Std.Notify

/-- The part of the program that executes statements. -/
def enginePart : String := "shardline::engine"

/-- The part of the program that statements enter and leave. -/
def handlerPart : String := "shardline::handler"

namespace State

/-- The engine of the service. -/
def engine (s : State) : Engine := s.service.engine

/-- Puts another engine in the place of the one there is. -/
def setEngine (s : State) (engine : Engine) : State :=
  { s with service := { s.service with engine } }

/-- Something goes on no more; the last one lets the service forget. -/
def leave (s : State) : State :=
  if s.active ≤ 1 then { s with active := 0, service := s.service.forgetPast, era := s.era + 1 }
  else { s with active := s.active - 1 }

/-- A link is given back: it is idle from then on, unless it cannot be used again. -/
def giveBack (s : State) (key : HeldKey) : IO State := do
  match s.held.lookup key with
  | none => return s
  | some link =>
    let s := { s with held := s.held.filter (·.1 ≠ key) }
    if ← link.reusable then return { s with idle := (key.2, link) :: s.idle }
    else
      link.stop.cancel
      return s

/-- The link of a task that has been told to stop is stopped while it is in use. -/
def stopLink (s : State) (key : HeldKey) : IO Unit := do
  if let some link := s.held.lookup key then
    if !(← link.usable.get) then link.stop.cancel

/-- An idle link to a data source, taken out; those that cannot be used any more go as well. -/
def takeIdle (s : State) (source : String) : IO (Option Link × State) := do
  let mut kept := []
  let mut found := none
  for (name, link) in s.idle do
    if name = source ∧ found.isNone then
      if ← link.reusable then found := some link
    else kept := kept ++ [(name, link)]
  return (found, { s with idle := kept })

end State

namespace Running

/-- A service that begins to run. -/
def new (config : Config) (journal : Journal) (engine : Engine) : IO Running := do
  let type := config.transactionType
  let service := Service.new engine .concatenate type type .empty
  return { config, journal
           state := ← Std.Mutex.new ⟨service, [], [], 0, 0⟩
           changed := ← Std.Notify.new }

/-- Deals with what has happened: links that were given back, tasks that are to stop, reports. -/
def tend (r : Running) (s : State) : IO State := do
  let (news, engine) := s.engine.takeNews
  let mut s := s.setEngine engine
  for key in news.released do s ← s.giveBack key
  for key in engine.stopping do s.stopLink key
  r.journal.report enginePart news.lines
  let records := s.service.records
  r.journal.report handlerPart records.log
  return { s with service := { s.service with records := { records with log := [] } } }

/-- Changes what all share. -/
def change (r : Running) (f : State → IO (α × State)) : IO α := do
  let a ← r.state.atomically do
    let (a, s) ← f (← get)
    set (← r.tend s)
    return a
  r.changed.notify
  return a

/-- What has come of trying a step. -/
inductive Tried where
  /-- It was taken, and these tasks have been spawned. -/
  | taken (tasks : List Nat)
  /-- It is not possible before something changes. -/
  | impossible (change : AsyncTask Unit)

/-- Tries a step. -/
def tryStep (r : Running) (a : ServiceAction) : IO Tried := do
  let tried ← r.state.atomically do
    let s ← get
    match s.service.step a with
    | none => return .impossible (← r.changed.wait)
    | some service =>
      let spawned := service.engine.taskCount - s.engine.taskCount
      let tasks := List.range' s.engine.taskCount spawned
      set (← r.tend { s with service, active := s.active + spawned })
      return .taken tasks
  if let .taken _ := tried then r.changed.notify
  return tried

/-- Something goes on no more. -/
def leave (r : Running) : IO Unit := do
  r.state.atomically do set (← get).leave
  r.changed.notify

/-- The link that is held under a key. -/
def heldLink? (r : Running) (key : HeldKey) : IO (Option Link) :=
  r.state.atomically do return (← get).held.lookup key

/-- Holds a link. -/
def hold (r : Running) (key : HeldKey) (link : Link) : IO Unit :=
  r.change fun s => return ((), { s with held := (key, link) :: s.held })

/-- Offers the replies of a channel for as long as they come. -/
def offerReplies (r : Running) (source : String) (link : Link) : Async Unit := do
  let failure ← link.forReplies fun frame =>
    (r.change fun s => return ((), s.setEngine (s.engine.offer frame)) : IO Unit)
  if let some e := failure then
    if !(← link.stop.isCancelled) then r.journal.report enginePart [channelFailedLine source e]

/-- Gets a link to a data source for a call: an idle one, or a new one. -/
def acquire (r : Running) (call : Nat) (source : String) : Async (Option ExecutionError) := do
  match r.config.dataSources.lookup source with
  | none => return some (.resource (.unknownSource source))
  | some address =>
    match ← r.change fun s => s.takeIdle source with
    | some link =>
      r.hold (call, source) link
      return none
    | none =>
      match ← Link.establish source address r.config.connectTimeout with
      | .error e => return some e
      | .ok link =>
        if r.config.mode = .forward then background (r.offerReplies source link)
        r.hold (call, source) link
        return none

/-- Waits until something has changed when a step was impossible. -/
def settle : Tried → Async Unit
  | .taken _ => pure ()
  | .impossible change => await change

/-- A call or a task over connections goes on to its end. -/
partial def driveConnection (r : Running) (who : Runner) : Async Unit := do
  let step (a : ConnectionAction) : IO Tried := r.tryStep (.connection a)
  while true do
    match ← (r.state.atomically do return (← get).engine.nextConnection? who : IO _) with
    | none => break
    | some (.act a) =>
      let tried ← step a
      if let .taken tasks := tried then
        for task in tasks do
          background do
            driveConnection r (.task task)
            r.leave
      settle tried
    | some (.acquire call source) =>
      let refusal ← r.acquire call source
      let _ ← step (.acquired call refusal)
    | some (.send call source _) =>
      -- From here on the link is stopped when the task is told to stop.
      if let some link ← r.heldLink? (call, source) then link.usable.set false
      let _ ← step (.send who)
    | some (.receive call source statement) =>
      let some link ← r.heldLink? (call, source) | break
      let answer ← link.execute source statement
      let _ ← step (.answer who (.result answer))

/-- The deadline of a call that waits passes after a while, unless it is long over. -/
def startDeadline (r : Running) (call : Nat) : Async Unit := do
  let (era, task) ← r.state.atomically do
    let s ← get
    return (s.era, do
      match ← s.engine.nextForward? call with
      | .collect task => some task
      | _ => none)
  if let some task := task then
    background (do
      Link.pause r.config.backendTimeout.millis
      (r.change fun s => do
        if s.era ≠ era then return ((), s)
        let expired := s.service.step (.forward (.collector (.expire task)))
        return ((), { s with service := expired.getD s.service }) : IO Unit))

/-- A call over channels goes on to its end. -/
def driveForward (r : Running) (call : Nat) : Async Unit := do
  let step (a : ForwardAction) : IO Tried := r.tryStep (.forward a)
  while true do
    match ← (r.state.atomically do return (← get).engine.nextForward? call : IO _) with
    | none => break
    | some (.act a) => settle (← step a)
    | some (.acquire source) =>
      let refusal ← r.acquire call source
      let _ ← step (.acquired call refusal)
    | some (.send _ _) => settle (← step (.send call))
    | some (.transmit source q) =>
      let some link ← r.heldLink? (call, source) | break
      let failure ← link.send source q
      let _ ← step (.sent call failure)
    | some .await =>
      let _ ← step (.await call)
      r.startDeadline call
    | some (.collect task) => settle (← step (.collector (.advance task)))

/-- What a statement gave; one that has been given up gave nothing. -/
def resultOf (service : Service) (number : Nat) : StatementResult :=
  (service.statements[number]?.bind StatementRun.result?).getD (.error (.unknown .taskCancelled))

/-- A statement goes on to its end. -/
def drive (r : Running) (number : Nat) : Async StatementResult := do
  while true do
    let (service, next?) ← (r.state.atomically do
      let service := (← get).service
      return (service, service.next? number) : IO _)
    match next? with
    | none => return resultOf service number
    | some a =>
      if let some call := service.statements[number]?.bind StatementRun.call? then
        match r.config.mode with
        | .connection => r.driveConnection (.call call)
        | .forward => r.driveForward call
      settle (← r.tryStep a)
  return .error (.unknown .taskCancelled)

/-- Executes a statement. -/
def execute (r : Running) (q : Http.ExecuteRequest) : Async StatementResult := do
  let number ← (r.change fun s => do
    let service := (s.service.step (.enter q)).getD s.service
    return (s.service.statements.length, { s with service, active := s.active + 1 }) : IO Nat)
  let result ← r.drive number
  r.leave
  return result

/-- Waits until nothing is under way. -/
def rest (r : Running) : Async Unit := do
  while true do
    let busy ← r.state.atomically do
      if (← get).active = 0 then return none else return some (← r.changed.wait)
    match busy with
    | none => break
    | some change => await change

end Running

end ScatterGather.Server
