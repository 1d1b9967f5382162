import ScatterGather.Http.Router
import ScatterGather.Server.Running
import Std.Http.Server

/-!
# The HTTP surface

Requests are routed, statements among them executed by the running engine, and answers sent back.
`serve` listens until it is told to stop; then nobody new is let in, and what is under way comes to
its end.
-/

namespace ScatterGather.Server

open Std.Async

/-- The surface of a running engine. -/
structure Surface where
  running : Running
  /-- The milliseconds of the clock when the surface was opened. -/
  opened : Nat

namespace Surface

/-- The time since the surface was opened. -/
def uptime (s : Surface) : IO Duration := return .ofMillis ((← IO.monoMsNow) - s.opened)

/-- The answer to a request. -/
def answer (s : Surface) (q : Http.Request) : Async Http.Response := do
  let config := s.running.config
  let shown (headOnly : Bool) (r : Http.Response) : Http.Response :=
    if headOnly then r.headOnly else r
  match Http.route q with
  | .answered r => return r
  | .health headOnly =>
    return shown headOnly (.health (Named.name config.mode) (config.dataSources.map (·.1))
      (← s.uptime).seconds)
  | .metrics headOnly =>
    let uptime ← s.uptime
    s.running.state.atomically do
      let state ← get
      return shown headOnly (.metrics state.service.records.metrics state.engine.inFlight
        state.engine.discarded uptime.secondsText)
  | .execute e => return .ofStatement (← s.running.execute e)

/-! ### Requests and answers as they are sent -/

/-- The text of a body, as far as it is needed to see that it is too long; a body that is not text
is as malformed as an empty one. -/
def bodyText (body : Std.Http.Body.Stream) : Async String := do
  let mut bytes := ByteArray.empty
  while true do
    match ← body.recv with
    | none => break
    | some chunk => if bytes.size ≤ Http.maxBody then bytes := bytes ++ chunk.data
  return (String.fromUTF8? bytes).getD ""

/-- The request that has been sent. -/
def received (q : Std.Http.Request Std.Http.Body.Stream) : Async Http.Request := do
  let contentType := q.line.headers.get? .contentType
  return { method := toString q.line.method
           target := toString q.line.uri
           contentType := contentType.map toString
           body := ← bodyText q.body }

/-- The text of a body. -/
def textOfBody : Http.Body → String
  | .empty => ""
  | .json d => Json.print d
  | .text s => s

/-- The answer as it is sent. -/
def sent (r : Http.Response) : Async (Std.Http.Response Std.Http.Body.Any) := do
  let status := (Std.Http.Status.ofCode none (UInt16.ofNat r.status)).getD .internalServerError
  let withHeader (name : String) (value : Option String) (b : Std.Http.Response.Builder) :
      Std.Http.Response.Builder := (value.bind (b.header? name ·)).getD b
  let builder := withHeader "allow" r.allow
    (withHeader "content-type" r.contentType (Std.Http.Response.withStatus status))
  let full : Std.Http.Response Std.Http.Body.Full ←
    builder.fromBytes (textOfBody r.body).toUTF8
  return full

/-- Answers a request. -/
def handle (s : Surface) (q : Std.Http.Request Std.Http.Body.Stream) :
    Async (Std.Http.Response Std.Http.Body.Any) := do
  sent (← s.answer (← received q))

end Surface

/-- The handler of the connections of a surface. -/
def Surface.handler (s : Surface) : Std.Http.Server.StatelessHandler :=
  Std.Http.Server.Handler.ofFn fun q => (s.handle q : Async _)

/-! ### Listening -/

/-- Somebody already listens on the port. -/
def portTaken (port : UInt16) : Async Bool := do
  let socket ← TCP.Socket.Client.mk
  return (← attempt (socket.connect (.v4 ⟨.ofParts 127 0 0 1, port⟩))).toBool

/-- Listens on a port of all addresses. -/
def listen (port : UInt16) : Async TCP.Socket.Server := do
  let server ← TCP.Socket.Server.mk
  server.bind (.v4 ⟨.ofParts 0 0 0 0, port⟩)
  server.listen 1024
  server.noDelay
  return server

/-- The time in which answers that are ready go out, in milliseconds. -/
def farewell : Nat := 100

/-- Serves connections until it is told to stop, and then what is under way. -/
def serve (s : Surface) (server : TCP.Socket.Server) (stop : Std.CancellationToken)
    (stopped : IO Unit) : Async Unit := do
  let connections ← Std.CancellationContext.new
  while true do
    let next ← Selectable.one #[
      .case server.acceptSelector fun client => pure (some client),
      .case stop.selector fun _ => pure none]
    match next with
    | some client =>
      background (Std.Http.Server.serveConnection client s.handler {} .empty connections)
    | none => break
  stopped
  s.running.rest
  Link.pause farewell
  connections.cancel .shutdown

end ScatterGather.Server
