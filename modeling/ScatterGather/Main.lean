import ScatterGather.CommandLine.Run
import ScatterGather.Server.Surface
import Std.Async.System

/-!
# The program

Reads its arguments, finds its configuration, and serves its port until it is told to stop.
-/

namespace ScatterGather

open CommandLine Server Std.Async

/-- What there is under a path. -/
def sourceUnder (path : String) : IO Source := do
  match ← (IO.FS.readBinFile path).toBaseIO with
  | .ok content => return .file content
  | .error e =>
    match systemFault? e with
    | some ⟨2⟩ | some ⟨20⟩ => return .absent
    | _ => return .unreadable (faultText e)

/-- The disk, as far as these paths go. -/
def diskOf (paths : List String) : IO Disk := do
  let found ← paths.mapM fun path => return (path, ← sourceUnder path)
  return fun path => (found.lookup path).getD .absent

/-- The variables of the environment. -/
def environment : IO Environment := return (← Std.Internal.UV.System.osEnviron).toList

/-- Says why the program fails. -/
def fail (failure : Failure) : IO UInt32 := do
  IO.eprintln failure.message
  return UInt32.ofNat failure.code

/-- Tells to stop when a signal comes. -/
def stopAt (stop : Std.CancellationToken) (signal : Signal) : IO Unit := do
  let waiter ← Signal.Waiter.mk signal false
  let arrival ← waiter.wait
  (background (do
    let _ ← await arrival
    stop.cancel) : Async Unit).block

/-- Serves a port until a signal comes. -/
def serveOn (journal : Journal) (c : Config) (engine : Engine) : IO UInt32 := do
  if ← (portTaken c.port).block then return ← fail (.unbound .addressInUse)
  match ← (listen c.port).block.toBaseIO with
  | .error e => fail (.unbound ((systemFault? e).getD .addressInUse))
  | .ok server =>
    let running ← Running.new c journal engine
    let stop ← Std.CancellationToken.new
    for signal in [Signal.sigint, .sigterm] do stopAt stop signal
    journal.report mainPart [listeningLine c.port]
    let surface : Surface := ⟨running, ← IO.monoMsNow⟩
    (serve surface server stop (journal.report mainPart [stoppedLine])).block
    return 0

end ScatterGather

open ScatterGather CommandLine Server in
/-- Runs the program. -/
def main (args : List String) : IO UInt32 := do
  let env ← environment
  let parallelism := (← Std.Async.System.getCPUInfo).size
  let disk ← diskOf (pathsOf args)
  let (lines, plan) := plan parallelism args disk env
  let journal : Journal := ⟨filterOf env⟩
  journal.write lines
  match plan with
  | .print text =>
    IO.print text
    return 0
  | .fail failure => fail failure
  | .serve c engine => serveOn journal c engine
