import ScatterGather.Forward.Engine

/-!
# What goes on next over channels

Who runs a `ForwardEngine` asks `next?` what a call goes on with, and does it: takes a step, gets a
channel, puts a request into it, or waits until a task of the collector has ended or its deadline
has passed. Replies that come in are offered to the collector.
-/

namespace ScatterGather

/-- What a call goes on with. -/
inductive ForwardNext where
  /-- A step by itself. -/
  | act (a : ForwardAction)
  /-- A channel to a data source, or its refusal. -/
  | acquire (source : String)
  /-- A request is about to be sent to a data source. -/
  | send (source : String) (q : Request)
  /-- The channel takes the request, or fails. -/
  | transmit (source : String) (q : Request)
  /-- It begins to wait, with a deadline. -/
  | await
  /-- It waits for a task of the collector. -/
  | collect (task : Nat)

namespace ForwardEngine

/-- A step that is taken once a task of the collector is over. -/
def nextBehind (task : Nat) (ended : Bool) (a : ForwardAction) : ForwardNext :=
  if ended then .act a else .collect task

/-- What a call goes on with; `none` when it is over. -/
def next? (s : ForwardEngine) (call : Nat) : Option ForwardNext := do
  match ← s.stage? call with
  | .acquiring a =>
    match a.asked, a.todo with
    | true, g :: _ => some (.acquire g.dataSource)
    | false, [] => some (.act (.takeId call))
    | _, _ => some (.act (.ask call))
  | .registering _ _ => some (.act (.register call))
  | .sending _ _ [] _ => some (.act (.giveBack call))
  | .sending id _ (u :: _) false => some (.send u.dataSource (s.request id u))
  | .sending id _ (u :: _) true => some (.transmit u.dataSource (s.request id u))
  | .sent _ _ => some .await
  | .waiting _ _ task => some (nextBehind task (s.awaited? task).isSome (.settle call))
  | .abandoning _ task => some (nextBehind task (s.taskOver task) (.settle call))
  | .leaving _ _ _ => some (.act (.leave call))
  | .removing task _ _ => some (nextBehind task (s.taskOver task) (.conclude call))
  | .ended _ => none

/-- The steps of an offer: it finds the wait, appends to it, and wakes a call. -/
def offerSteps : Nat := 3

/-- A reply is offered to the collector, without anything in between. -/
def offer (s : ForwardEngine) (frame : ReplyFrame) : ForwardEngine :=
  let task := s.collector.tasks.length
  let s := (s.step (.collector (.offer frame.correlationId frame))).getD s
  (List.range offerSteps).foldl
    (fun s _ => (s.step (.collector (.advance task))).getD s) s

end ForwardEngine

end ScatterGather
