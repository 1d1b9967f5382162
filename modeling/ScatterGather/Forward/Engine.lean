import ScatterGather.Collector.Registry
import ScatterGather.Dispatch.Acquisition
import ScatterGather.Response
import ScatterGather.Wire.Message

/-!
# Forwarding a route over shared channels

A call acquires a channel for each group, takes a correlation id, registers a wait for as many
replies as it has units, and only then sends its units in dispatch order. The channels are given
back as soon as everything is sent; the replies come through the registry, in any order. They are
sorted by the index of their unit; the indexes must be exactly those of the units. Then each reply
is taken for the data source of its unit, and the first error among them in dispatch order decides.
However the call ends, also when its caller gives it up, it removes its registration and gives its
channels back.

`ForwardEngine.step` says what can happen next, one action at a time. Offers of replies, and
anything else that is done to the registry, are actions of the collector.
-/

namespace ScatterGather

namespace Forward

/-- Frames in the order of their unit indexes; frames of one index stay in order. -/
def sorted (frames : List ReplyFrame) : List ReplyFrame :=
  frames.mergeSort fun a b => a.unitIndex ≤ b.unitIndex

/-- The unit indexes are `0, 1, ...`, each once and in order. -/
def covers (frames : List ReplyFrame) : Bool :=
  frames.map (·.unitIndex.toNat) == List.range frames.length

/-- The outcomes of frames in dispatch order, each of its own data source. -/
def classified (sources : List String) (frames : List ReplyFrame) :
    Except ExecutionError (List Success) :=
  (frames.zip sources).mapM fun (f, source) => f.reply.toOutcome.classify source

/-- The outcomes of the units whose data sources are given in dispatch order. -/
def settle (id : CorrelationId) (sources : List String) (frames : List ReplyFrame) :
    Except ExecutionError (List Success) :=
  let inOrder := sorted frames
  if covers inOrder then classified sources inOrder
  else .error (.invalidState (.repliesIncomplete id sources.length))

end Forward

/-- How an engine forwards its units. -/
structure ForwardSettings where
  /-- How long replies are waited for. -/
  timeout : Duration
  fetchSize : Option UInt32
  /-- Every statement that is sent is reported. -/
  showSql : Bool
deriving Inhabited

/-- How a call that is leaving will have ended. -/
inductive ForwardEnd where
  | result (r : Except ExecutionError Response)
  /-- Given up by its caller. -/
  | dropped

/-- Where a call stands. -/
inductive ForwardStage where
  /-- Acquiring channels. -/
  | acquiring (a : Acquisition)
  /-- About to register its id. -/
  | registering (id : CorrelationId) (held : List UnitGroup)
  /-- Sending: the units not yet sent, and whether a send is under way. -/
  | sending (id : CorrelationId) (held : List UnitGroup) (rest : List PhysicalUnit)
    (underWay : Bool)
  /-- All is sent: about to wait. -/
  | sent (id : CorrelationId) (sources : List String)
  /-- Waiting, by a task of the collector. -/
  | waiting (id : CorrelationId) (sources : List String) (task : Nat)
  /-- Given up while waiting: the task of the collector is about to end. -/
  | abandoning (id : CorrelationId) (task : Nat)
  /-- Over but for its registration and the channels it still holds. -/
  | leaving (id : CorrelationId) (held : List UnitGroup) (how : ForwardEnd)
  /-- Removing its registration, by a task of the collector. -/
  | removing (task : Nat) (held : List UnitGroup) (how : ForwardEnd)
  | ended (how : ForwardEnd)

namespace ForwardStage

/-- The call is over. -/
def isOver : ForwardStage → Bool
  | .ended _ => true
  | _ => false

end ForwardStage

/-- A call: the units of its route in dispatch order, and where it stands. -/
structure ForwardCall where
  units : List PhysicalUnit
  stage : ForwardStage

/-- The calls of an engine, the registry they share, and what has happened. -/
structure ForwardEngine where
  settings : ForwardSettings
  calls : List ForwardCall
  collector : Collector ReplyFrame
  events : List (DispatchEvent Request)
  log : List LogLine

/-- What can happen next. -/
inductive ForwardAction where
  /-- A new call begins. -/
  | begin (route : Route) (keys : Bool)
  /-- A call asks for its next channel. -/
  | ask (call : Nat)
  /-- The channel is there, or is refused. -/
  | acquired (call : Nat) (refusal : Option ExecutionError)
  /-- A call that holds all its channels takes a correlation id. -/
  | takeId (call : Nat)
  /-- A call registers its id. -/
  | register (call : Nat)
  /-- A call sends its next unit. -/
  | send (call : Nat)
  /-- The channel has taken the unit, or has failed. -/
  | sent (call : Nat) (failure : Option ExecutionError)
  /-- A call that has sent everything gives its channels back. -/
  | giveBack (call : Nat)
  /-- A call begins to wait. -/
  | await (call : Nat)
  /-- A call goes on with what waiting gave. -/
  | settle (call : Nat)
  /-- A call begins to remove its registration. -/
  | leave (call : Nat)
  /-- A call whose registration is removed ends. -/
  | conclude (call : Nat)
  /-- The caller gives a call up. -/
  | drop (call : Nat)
  /-- Something happens to the registry and the tasks that use it. -/
  | collector (a : CollectorAction ReplyFrame)

namespace ForwardEngine

/-- An engine without calls. -/
def new (settings : ForwardSettings) : ForwardEngine := ⟨settings, [], .empty, [], []⟩

/-- Puts a call at a stage. -/
def setStage (s : ForwardEngine) (call : Nat) (stage : ForwardStage) : ForwardEngine :=
  { s with calls := s.calls.modify call fun c => { c with stage } }

/-- Records events. -/
def record (s : ForwardEngine) (events : List (DispatchEvent Request)) : ForwardEngine :=
  { s with events := s.events ++ events }

/-- Records reports. -/
def report (s : ForwardEngine) (lines : List LogLine) : ForwardEngine :=
  { s with log := s.log ++ lines }

/-- The stage of a call. -/
def stage? (s : ForwardEngine) (call : Nat) : Option ForwardStage := (s.calls[call]?).map (·.stage)

/-- A new call: one without units is over at once. -/
def firstCall (route : Route) (keys : Bool) : ForwardCall :=
  { units := route.dispatchUnits keys
    stage :=
      if route.units.isEmpty then .ended (.result (.ok .empty))
      else .acquiring (.ofGroups (route.groups keys)) }

/-- The request for a unit: only the first one asks for metadata. -/
def request (s : ForwardEngine) (id : CorrelationId) (u : PhysicalUnit) : Request :=
  { correlationId := id
    unitIndex := UInt64.ofNat u.index
    sql := u.sql
    returnGeneratedKeys := u.returnGeneratedKeys
    captureMetadata := u.index == 0
    fetchSize := s.settings.fetchSize }

/-- What a call that waited has got, when its task has ended. -/
def awaited? (s : ForwardEngine) (task : Nat) :
    Option (Except ExecutionError (List ReplyFrame)) := do
  match ← s.collector.tasks[task]? with
  | .await _ _ (.ended result) => some result
  | _ => none

/-- The task of the collector has nothing left to do. -/
def taskOver (s : ForwardEngine) (task : Nat) : Bool :=
  match s.collector.tasks[task]? with
  | some (.await _ _ (.ended _)) | some (.await _ _ .gone) => true
  | some (.unregister _ (.ended _)) => true
  | _ => false

/-- The response of a call whose replies are there. -/
def respond (id : CorrelationId) (sources : List String)
    (result : Except ExecutionError (List ReplyFrame)) :
    Except ExecutionError Response × List LogLine :=
  match result >>= Forward.settle id sources with
  | .ok units => (Response.ofUnits units, Response.warnings units)
  | .error e => (.error e, [])

/-- A step of the collector. -/
def collect? (s : ForwardEngine) (a : CollectorAction ReplyFrame) : Option ForwardEngine := do
  return { s with collector := ← s.collector.step a }

/-- A call is given up: what it has must be given back. -/
def drop? (s : ForwardEngine) (call : Nat) : ForwardStage → Option ForwardEngine
  | .acquiring a =>
    some ((s.record (Acquisition.releases call a.held)).setStage call (.ended .dropped))
  | .registering _ held =>
    some ((s.record (Acquisition.releases call held)).setStage call (.ended .dropped))
  | .sending id held _ _ => some (s.setStage call (.leaving id held .dropped))
  | .sent id _ => some (s.setStage call (.leaving id [] .dropped))
  | .waiting id _ task => do
    match s.awaited? task with
    | some _ => return s.setStage call (.leaving id [] .dropped)
    | none => return (← s.collect? (.cancel task)).setStage call (.abandoning id task)
  | _ => none

/-- One step; `none` when it is not possible. -/
def step (s : ForwardEngine) : ForwardAction → Option ForwardEngine
  | .begin route keys => some { s with calls := s.calls ++ [firstCall route keys] }
  | .ask call => do
    match ← s.stage? call with
    | .acquiring a =>
      let (source, a) ← a.ask?
      return (s.record [.requested call source]).setStage call (.acquiring a)
    | _ => none
  | .acquired call refusal => do
    match ← s.stage? call with
    | .acquiring a =>
      let (source, granted) ← a.grant?
      match refusal with
      | none => return (s.record [.acquired call source]).setStage call (.acquiring granted)
      | some e =>
        return (s.record (Acquisition.releases call a.held)).setStage call
          (.ended (.result (.error e)))
    | _ => none
  | .takeId call => do
    match ← s.stage? call with
    | .acquiring a =>
      if a.complete then
        let (id, registry) := s.collector.registry.takeId
        some ({ s with collector := { s.collector with registry } }.setStage call
          (.registering id a.held))
      else none
    | _ => none
  | .register call => do
    let c ← s.calls[call]?
    match c.stage with
    | .registering id held =>
      match s.collector.registry.register id c.units.length with
      | (.ok _, registry) =>
        return { s with collector := { s.collector with registry } }.setStage call
          (.sending id held c.units false)
      | (.error e, _) =>
        return (s.record (Acquisition.releases call held)).setStage call
          (.ended (.result (.error e)))
    | _ => none
  | .send call => do
    match ← s.stage? call with
    | .sending id held (u :: rest) false =>
      return ((s.record [.sent call u.dataSource (s.request id u)]).report
        (sqlLines s.settings.showSql u)).setStage call (.sending id held (u :: rest) true)
    | _ => none
  | .sent call failure => do
    match ← s.stage? call with
    | .sending id held (_ :: rest) true =>
      match failure with
      | none => return s.setStage call (.sending id held rest false)
      | some e => return s.setStage call (.leaving id held (.result (.error e)))
    | _ => none
  | .giveBack call => do
    let c ← s.calls[call]?
    match c.stage with
    | .sending id held [] false =>
      return (s.record (Acquisition.releases call held)).setStage call
        (.sent id (c.units.map (·.dataSource)))
    | _ => none
  | .await call => do
    match ← s.stage? call with
    | .sent id sources =>
      let task := s.collector.tasks.length
      return (← s.collect? (.await id s.settings.timeout)).setStage call
        (.waiting id sources task)
    | _ => none
  | .settle call => do
    match ← s.stage? call with
    | .waiting id sources task =>
      let (response, lines) := respond id sources (← s.awaited? task)
      return (s.report lines).setStage call (.leaving id [] (.result response))
    | .abandoning id task =>
      if s.taskOver task then some (s.setStage call (.leaving id [] .dropped)) else none
    | _ => none
  | .leave call => do
    match ← s.stage? call with
    | .leaving id held how =>
      let task := s.collector.tasks.length
      return (← s.collect? (.unregister id)).setStage call (.removing task held how)
    | _ => none
  | .conclude call => do
    match ← s.stage? call with
    | .removing task held how =>
      if s.taskOver task then
        some ((s.record (Acquisition.releases call held)).setStage call (.ended how))
      else none
    | _ => none
  | .drop call => do s.drop? call (← s.stage? call)
  | .collector a => s.collect? a

/-- Steps in order; `none` when one is not possible. -/
def run (s : ForwardEngine) (actions : List ForwardAction) : Option ForwardEngine :=
  actions.foldlM step s

end ForwardEngine

end ScatterGather
