import ScatterGather.MessagePack.Reader
import ScatterGather.MessagePack.Writer
import ScatterGather.Wire.Message

/-!
# Frames

A stream opens with `Frame.magic` and goes on with frames: the length of a payload in four bytes,
the most significant first, and the payload, one message in MessagePack of at most
`Frame.maxPayload` bytes. A stream may end between two frames; an end inside a payload is an error,
and an end inside the four bytes counts as one between frames.
-/

namespace ScatterGather

/-- Why a frame was not read or written. -/
inductive FrameError where
  /-- The stream failed. -/
  | broken (reason : String)
  /-- The stream ended inside a frame. -/
  | cut
  /-- A payload of so many bytes is too large. -/
  | tooLarge (bytes : Nat)
  /-- The stream does not open with `Frame.magic`. -/
  | badMagic
  /-- The payload is not the message that was asked for. -/
  | undecodable
deriving DecidableEq, Repr

/-- The wording of a frame error. -/
def FrameError.message : FrameError → String
  | .broken reason => "I/O error: " ++ reason
  | .cut => "I/O error: early eof"
  | .tooLarge bytes => s!"Frame of {bytes} bytes exceeds the maximum frame size"
  | .badMagic => "Peer did not send the expected protocol header"
  | .undecodable => "Deserialization failed"

namespace Frame

/-- The bytes a stream opens with. -/
def magic : List UInt8 := "shardline-fwd-v1\x00".toUTF8.data.toList

/-- The greatest payload, in bytes. -/
def maxPayload : Nat := 16 * 1024 * 1024

/-- The bytes of a frame around a payload. -/
def ofPayload (payload : ByteArray) : ByteArray :=
  MessagePack.putBytes .empty (MessagePack.bigEndian 4 payload.size) ++ payload

/-- The frame of a message. -/
def encode (message : Document) : Except FrameError ByteArray :=
  let payload := MessagePack.write message
  if maxPayload < payload.size then .error (.tooLarge payload.size)
  else .ok (ofPayload payload)

/-- The number of bytes that must be there before a stream can be read on: those of the length, or
those of the whole frame, unless it is too large. -/
def extent (front : ByteArray) : Nat :=
  if front.size < 4 then 4
  else
    let size := MessagePack.ofBigEndian (front.extract 0 4).data.toList
    if maxPayload < size then 4 else 4 + size

/-- The message of a payload. -/
def decode (readMessage : Document → Except Fault α) (payload : List UInt8) : Except FrameError α :=
  match MessagePack.readRecord? readMessage payload with
  | some message => .ok message
  | none => .error .undecodable

end Frame

/-! ### Streams -/

/-- The bytes still to come from a peer, and how the stream ends behind them. -/
structure Incoming where
  bytes : List UInt8
  /-- The stream fails behind its bytes instead of ending. -/
  failure : Option String
deriving Inhabited

namespace Incoming

/-- Why bytes are missing at the end of a stream. -/
def ending (s : Incoming) : FrameError :=
  match s.failure with
  | some reason => .broken reason
  | none => .cut

/-- Reads exactly `n` bytes; when there are fewer, they are used up. -/
def readExact (n : Nat) (s : Incoming) : Except FrameError (List UInt8) × Incoming :=
  match MessagePack.split? n s.bytes with
  | some (front, rest) => (.ok front, { s with bytes := rest })
  | none => (.error s.ending, { s with bytes := [] })

/-- Reads the opening of a stream. -/
def readMagic (s : Incoming) : Except FrameError Unit × Incoming :=
  match s.readExact Frame.magic.length with
  | (.ok front, s) => (if front = Frame.magic then .ok () else .error .badMagic, s)
  | (.error e, s) => (.error e, s)

/-- Reads the payload of one frame; `none` when the stream ended before it. -/
def readPayload (s : Incoming) : Except FrameError (Option (List UInt8)) × Incoming :=
  match s.readExact 4 with
  | (.error .cut, s) => (.ok none, s)
  | (.error e, s) => (.error e, s)
  | (.ok front, s) =>
    let size := MessagePack.ofBigEndian front
    if Frame.maxPayload < size then (.error (.tooLarge size), s)
    else
      match s.readExact size with
      | (.ok payload, s) => (.ok (some payload), s)
      | (.error e, s) => (.error e, s)

/-- Reads one message; `none` when the stream ended before it. -/
def readFrame (readMessage : Document → Except Fault α) (s : Incoming) :
    Except FrameError (Option α) × Incoming :=
  match s.readPayload with
  | (.ok (some payload), s) => (some <$> Frame.decode readMessage payload, s)
  | (.ok none, s) => (.ok none, s)
  | (.error e, s) => (.error e, s)

end Incoming

/-- The bytes written to a peer, how many more it takes, and whether it can be flushed. -/
structure Outgoing where
  written : ByteArray
  /-- The number of bytes that still fit; no limit when there is none. -/
  room : Option Nat
  flushFails : Bool
deriving Inhabited

namespace Outgoing

/-- Writes bytes, as far as there is room. -/
def writeAll (s : Outgoing) (bytes : ByteArray) : Except FrameError Unit × Outgoing :=
  match s.room with
  | none => (.ok (), { s with written := s.written ++ bytes })
  | some room =>
    if bytes.size ≤ room then
      (.ok (), { s with written := s.written ++ bytes, room := some (room - bytes.size) })
    else
      (.error (.broken "no room"),
        { s with written := s.written ++ bytes.extract 0 room, room := some 0 })

/-- Flushes what was written. -/
def flush (s : Outgoing) : Except FrameError Unit :=
  if s.flushFails then .error (.broken "no flush") else .ok ()

/-- Writes the opening of a stream. -/
def writeMagic (s : Outgoing) : Except FrameError Unit × Outgoing :=
  s.writeAll (MessagePack.putBytes .empty Frame.magic)

/-- Writes one message and flushes. -/
def writeFrame (s : Outgoing) (message : Document) : Except FrameError Unit × Outgoing :=
  match Frame.encode message with
  | .error e => (.error e, s)
  | .ok frame =>
    match s.writeAll frame with
    | (.ok (), s) => (s.flush, s)
    | (.error e, s) => (.error e, s)

/-- Writes messages up to the first failure. -/
def writeFrames (s : Outgoing) : List Document → Except FrameError Unit × Outgoing
  | [] => (.ok (), s)
  | m :: ms =>
    match s.writeFrame m with
    | (.ok (), s) => s.writeFrames ms
    | (.error e, s) => (.error e, s)

/-- Writes a stream, with its opening or as the continuation of one. -/
def writeStream (s : Outgoing) (opening : Bool) (messages : List Document) :
    Except FrameError Unit × Outgoing :=
  match if opening then s.writeMagic else (.ok (), s) with
  | (.ok (), s) => s.writeFrames messages
  | (.error e, s) => (.error e, s)

end Outgoing

end ScatterGather
