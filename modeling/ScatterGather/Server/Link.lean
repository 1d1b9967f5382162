import ScatterGather.SystemFault
import ScatterGather.Wire.Exchange
import Std.Async.DNS
import Std.Async.TCP
import Std.Async.Timer
import Std.Sync.CancellationToken

/-!
# Links to data sources

A link is an open connection of the network with what has been read ahead from it. It may be told to
stop; then whoever reads from it gets a failure at once.
-/

namespace ScatterGather.Server

open Std.Async Std.Net

/-! ### Faults -/

/-- The number under which the operating system knows a failure. -/
def faultNumber? : IO.Error → Option UInt32
  | .alreadyExists _ code _ | .otherError code _ | .resourceBusy code _
  | .resourceVanished code _ | .unsupportedOperation code _ | .hardwareFault code _
  | .unsatisfiedConstraints code _ | .illegalOperation code _ | .protocolError code _
  | .timeExpired code _ | .interrupted _ code _ | .noFileOrDirectory _ code _
  | .invalidArgument _ code _ | .permissionDenied _ code _ | .resourceExhausted _ code _
  | .inappropriateType _ code _ | .noSuchThing _ code _ => some code
  | _ => none

/-- The fault of the operating system behind a failure; its number may have been negated. -/
def systemFault? (e : IO.Error) : Option SystemFault := do
  let code ← faultNumber? e
  let number := min code (0 - code)
  if number < 1000 then some ⟨number.toNat⟩ else none

/-- The text of a failure. -/
def faultText (e : IO.Error) : String :=
  match systemFault? e with
  | some fault => fault.text
  | none => toString e

/-- Does something; a failure is given back as its text. -/
def attempt (act : Async α) : Async (Except String α) := do
  try return .ok (← act)
  catch e => return .error (faultText e)

/-! ### Links -/

/-- An open link. -/
structure Link where
  socket : TCP.Socket.Client
  /-- What has been read and not used. -/
  unread : IO.Ref ByteArray
  /-- The number of requests sent. -/
  requests : IO.Ref CorrelationId
  /-- Nothing is under way on the link, and nothing has gone wrong. -/
  usable : IO.Ref Bool
  stop : Std.CancellationToken

namespace Link

/-- The host is an address of the network layer. -/
def literal? (host : String) (port : UInt16) : Option SocketAddress :=
  match IPv4Addr.ofString host with
  | some addr => some (.v4 ⟨addr, port⟩)
  | none =>
    let bare := (host.toList.dropWhile (· = '[')).takeWhile (· ≠ ']')
    (IPv6Addr.ofString (String.ofList bare)).map fun addr => .v6 ⟨addr, port⟩

/-- The addresses that an address stands for. -/
def resolve (a : Address) : Async (List SocketAddress) := do
  match literal? a.host a.port with
  | some addr => return [addr]
  | none =>
    let found ← DNS.getAddrInfo a.host (toString a.port.toNat)
    return found.toList.map fun
      | .v4 addr => .v4 ⟨addr, a.port⟩
      | .v6 addr => .v6 ⟨addr, a.port⟩

/-- Connects to the first address that can be connected to. -/
def connectAny : List SocketAddress → String → Async (Except String TCP.Socket.Client)
  | [], reason => return .error reason
  | addr :: rest, _ => do
    let socket ← TCP.Socket.Client.mk
    match ← attempt (socket.connect addr) with
    | .ok () => return .ok socket
    | .error reason => connectAny rest reason

/-- Connects to an address. -/
def connect (text : String) : Async (Except String TCP.Socket.Client) := do
  match Address.parse text with
  | .error reason => return .error reason
  | .ok a =>
    match ← attempt (resolve a) with
    | .error reason => return .error ("failed to lookup address information: " ++ reason)
    | .ok addresses => connectAny addresses "could not resolve to any address"

/-- Waits for some milliseconds. -/
def pause (millis : Nat) : Async Unit :=
  Std.Async.sleep (Std.Time.Millisecond.Offset.ofNat millis)

/-- A link over a socket. -/
def ofSocket (socket : TCP.Socket.Client) : IO Link :=
  return ⟨socket, ← IO.mkRef .empty, ← IO.mkRef 0, ← IO.mkRef true, ← Std.CancellationToken.new⟩

/-- The link may be used again: nothing has gone wrong, and nobody has told it to stop. -/
def reusable (l : Link) : IO Bool := return (← l.usable.get) && !(← l.stop.isCancelled)

/-- Writes bytes. -/
def write (l : Link) (bytes : ByteArray) : Async (Except FrameError Unit) := do
  match ← attempt (l.socket.send bytes) with
  | .ok () => return .ok ()
  | .error reason => return .error (.broken reason)

/-- Opens a link to a data source and writes the opening of the stream. -/
def establish (source address : String) (limit : Duration) :
    Async (Except ExecutionError Link) := do
  let connected : Async (Option (Except String TCP.Socket.Client)) := some <$> connect address
  let late : Async (Option (Except String TCP.Socket.Client)) := do
    pause limit.millis
    return none
  match ← Async.race connected late with
  | none => return .error (.resource (.connectTimeout source address limit))
  | some (.error reason) => return .error (.resource (.cannotConnect source address reason))
  | some (.ok socket) =>
    let _ ← (socket.noDelay : IO Unit).toBaseIO
    let l ← ofSocket socket
    match ← l.write (MessagePack.putBytes .empty Frame.magic) with
    | .ok () => return .ok l
    | .error e => return .error (.resource (.noHandshake source e.message))

/-- The number of bytes that are read at once. -/
def chunkSize : UInt64 := 65536

/-- Reads some bytes; nothing at the end. -/
def readSome (l : Link) : Async (Option ByteArray) :=
  Selectable.one #[
    .case (l.socket.recvSelector chunkSize) pure,
    .case l.stop.selector fun _ => throw (.userError "stopped")]

/-- Reads until there is enough for a frame; what ends the stream before is its failure. -/
def fill (l : Link) : Async (Option String) := do
  while true do
    let unread ← l.unread.get
    if Frame.extent unread ≤ unread.size then return none
    match ← attempt l.readSome with
    | .error reason => return some reason
    | .ok none => return none
    | .ok (some bytes) => l.unread.modify (· ++ bytes)
  return none

/-- Reads the next reply; nothing when the stream has ended before it. -/
def readReply (l : Link) : Async (Except FrameError (Option ReplyFrame)) := do
  let failure ← l.fill
  let unread ← l.unread.get
  let extent := min (Frame.extent unread) unread.size
  l.unread.set (unread.extract extent unread.size)
  let incoming : Incoming := ⟨(unread.extract 0 extent).data.toList, failure⟩
  return (incoming.readFrame (ReplyFrame.ofDocument MessagePack.reading)).1

/-- Writes a request. -/
def writeRequest (l : Link) (q : Request) : Async (Except FrameError Unit) := do
  match Frame.encode q.toDocument with
  | .error e => return .error e
  | .ok frame => l.write frame

/-- Executes a statement over a connection. -/
def execute (l : Link) (source : String) (s : SentStatement) :
    Async (Except ExecutionError Outcome) := do
  let id ← l.requests.modifyGet fun n => (n + 1, n + 1)
  l.usable.set false
  match ← l.writeRequest (Exchange.request id s) with
  | .error e => return .error (.linkLost source e)
  | .ok () =>
    let answer := Exchange.answer source id (← l.readReply)
    l.usable.set answer.toBool
    return answer

/-- Sends a request over a channel. -/
def send (l : Link) (source : String) (q : Request) : Async (Option ExecutionError) := do
  if !(← l.usable.get) then return some (.channelClosed source)
  match ← l.writeRequest q with
  | .ok () => return none
  | .error e =>
    l.usable.set false
    return some (.linkLost source e)

/-- Hands on the replies of a channel until it ends or fails. -/
def forReplies (l : Link) (deliver : ReplyFrame → Async Unit) : Async (Option FrameError) := do
  let mut failure := none
  while true do
    match ← l.readReply with
    | .ok (some frame) => deliver frame
    | .ok none => break
    | .error e =>
      failure := some e
      break
  l.usable.set false
  return failure

end Link

end ScatterGather.Server
