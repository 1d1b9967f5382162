import ScatterGather.Connection.Engine
import ScatterGather.Text.Ascii
import ScatterGather.Wire.Frame

/-!
# One statement over a connection

A connection leads to the address of a data source, a host and, behind its last colon, a port. It
carries one request at a time. Its answer must be the reply to that request; whatever else comes, or
nothing, is a failure, and the connection is not used again.
-/

namespace ScatterGather

/-- Where a data source listens. -/
structure Address where
  /-- A name, or an address of the network layer. -/
  host : String
  port : UInt16
deriving DecidableEq, Inhabited, Repr

/-- Reads an address, or says what is wrong with it. -/
def Address.parse (text : String) : Except String Address :=
  match (text.splitOn ":").reverse with
  | port :: h :: hs =>
    match Text.readUnsigned UInt16.size port with
    | some n => .ok ⟨":".intercalate (h :: hs).reverse, UInt16.ofNat n⟩
    | none => .error "invalid port value"
  | _ => .error "invalid socket address"

/-- Over the link to a data source nothing can be read or written any more. -/
def ExecutionError.linkLost (source : String) (e : FrameError) : ExecutionError :=
  .driver source (.ofMessage ("backend connection lost: " ++ e.message))

/-- A data source has closed its connection. -/
def ExecutionError.linkClosed (source : String) : ExecutionError :=
  .driver source (.ofMessage "backend closed the connection")

/-- A data source has closed its channel. -/
def ExecutionError.channelClosed (source : String) : ExecutionError :=
  .driver source (.ofMessage "backend channel is closed")

/-- The report about a channel that has failed. -/
def channelFailedLine (source : String) (e : FrameError) : LogLine :=
  .warn ("Channel to " ++ source ++ " failed: " ++ e.message)

namespace Exchange

/-- The request for a statement. -/
def request (id : CorrelationId) (s : SentStatement) : Request where
  correlationId := id
  unitIndex := 0
  sql := s.unit.sql
  returnGeneratedKeys := s.options.returnGeneratedKeys
  captureMetadata := s.options.captureMetadata
  fetchSize := s.options.fetchSize

/-- What the statement gives, by what was read behind its request. -/
def answer (source : String) (id : CorrelationId) :
    Except FrameError (Option ReplyFrame) → Except ExecutionError Outcome
  | .error e => .error (.linkLost source e)
  | .ok none => .error (.linkClosed source)
  | .ok (some frame) =>
    if frame.correlationId = id then .ok frame.reply.toOutcome
    else .error (.invalidState (.wrongReply source id frame.correlationId))

end Exchange

end ScatterGather
