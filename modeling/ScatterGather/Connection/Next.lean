import ScatterGather.Connection.Engine

/-!
# What goes on next over connections

Who runs a `ConnectionEngine` asks `next?` what a call or a task goes on with, and does it: takes a
step, gets a connection, sends a statement, or waits for an answer.
-/

namespace ScatterGather

/-- What a call or a task goes on with. -/
inductive ConnectionNext where
  /-- A step by itself, which may have to wait for others. -/
  | act (a : ConnectionAction)
  /-- A connection to a data source, or its refusal. -/
  | acquire (call : Nat) (source : String)
  /-- A statement is sent to a data source. -/
  | send (call : Nat) (source : String) (statement : SentStatement)
  /-- The answer to the statement that has been sent. -/
  | receive (call : Nat) (source : String) (statement : SentStatement)

namespace ConnectionEngine

/-- What a group goes on with. -/
def nextOfGroup (s : ConnectionEngine) (who : Runner) (call : Nat) (run : GroupRun) :
    ConnectionNext :=
  match run.awaited, run.rest with
  | some u, _ => .receive call run.dataSource (s.statement u)
  | none, u :: _ => .send call run.dataSource (s.statement u)
  | none, [] => .act (.finish who)

/-- What a call goes on with. -/
def nextOfCall (s : ConnectionEngine) (call : Nat) : ConnectionStage → Option ConnectionNext
  | .acquiring a =>
    match a.asked, a.todo with
    | true, g :: _ => some (.acquire call g.dataSource)
    | false, [] => some (.act (.launch call))
    | _, _ => some (.act (.ask call))
  | .running run _ => some (s.nextOfGroup (.call call) call run)
  | .collecting _ _ => some (.act (.collect call))
  | _ => none

/-- What a task goes on with. -/
def nextOfTask (s : ConnectionEngine) (task : Nat) (t : Worker GroupTask) :
    Option ConnectionNext :=
  if t.stage.hasEnded then none
  else if t.aborting then some (.act (.reap task))
  else
    match t.stage with
    | .fresh => some (.act (.request task))
    | .queued => some (.act (.start task))
    | _ => some (s.nextOfGroup (.task task) t.body.call t.body.run)

/-- What a call or a task goes on with; `none` when it is over. -/
def next? (s : ConnectionEngine) : Runner → Option ConnectionNext
  | .call call => do s.nextOfCall call (← s.calls[call]?)
  | .task task => do s.nextOfTask task (← s.workers.tasks[task]?)

end ConnectionEngine

end ScatterGather
