import ScatterGather.Connection.Engine
import ScatterGather.Wire.Message

/-!
# What data sources do in a rehearsal

A `Script` says, by the text of a statement, what a data source answers and when, and which data
sources cannot be reached.
-/

namespace ScatterGather.Rehearsal

/-- What data sources do. -/
structure Script where
  /-- The replies; a statement without one is answered with counts of zero. -/
  replies : List (String × Reply) := []
  /-- The milliseconds until an answer. -/
  delays : List (String × Nat) := []
  /-- The failures of the statement itself. -/
  failures : List (String × ExecutionError) := []
  /-- The statements that break the task that waits for them. -/
  panics : List String := []
  /-- The calls of `next` that the rows of a reply survive, and what the later ones fail with. -/
  faults : List (String × Nat × ExecutionError) := []
  /-- The statements that are never answered. -/
  silent : List String := []
  /-- The unit index that a reply carries instead of its own. -/
  indexAs : List (String × UInt64) := []
  /-- The correlation id that a reply carries instead of its own. -/
  idAs : List (String × CorrelationId) := []
  /-- How often a reply comes. -/
  copies : List (String × Nat) := []
  /-- Why a data source cannot be reached. -/
  refusal : String → Option ExecutionError := fun _ => none

namespace Script

/-- The refusals of data sources that cannot be reached. -/
def unreachable (sources : List String) (source : String) : Option ExecutionError :=
  if sources.contains source then some (.resource (.unreachable source)) else none

/-- The reply to a statement. -/
def reply (s : Script) (sql : String) : Reply := (s.replies.lookup sql).getD (.ok 0 0)

/-- The milliseconds until a statement is answered. -/
def delay (s : Script) (sql : String) : Nat := (s.delays.lookup sql).getD 0

/-- The outcome of a statement over a connection. -/
def outcome (s : Script) (sql : String) : Outcome :=
  match (s.reply sql).toOutcome with
  | .query q => .query { q with rows := { q.rows with fault := s.faults.lookup sql } }
  | o => o

/-- The answer to a statement over a connection. -/
def answer (s : Script) (sql : String) : ConnectionAnswer :=
  if s.panics.contains sql then .panic "boom"
  else
    match s.failures.lookup sql with
    | some e => .result (.error e)
    | none => .result (.ok (s.outcome sql))

/-- The frame that answers a request over a channel. -/
def frame (s : Script) (q : Request) : ReplyFrame :=
  { correlationId := (s.idAs.lookup q.sql).getD q.correlationId
    unitIndex := (s.indexAs.lookup q.sql).getD q.unitIndex
    reply := s.reply q.sql }

end Script

end ScatterGather.Rehearsal
