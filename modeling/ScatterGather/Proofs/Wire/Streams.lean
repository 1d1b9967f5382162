import ScatterGather.Proofs.Wire.RoundTrip

/-!
# Streams stay in step

Behind the opening of a stream its frames are read one after another. Each is taken whole whatever
its payload says, so that a payload that is not a message costs one answer and no more
(`Incoming.readFrames_frames`, by induction on the payloads); only a length that is too great is
refused, before anything behind it is read. What was written as a stream of messages is therefore
read as these messages (`streams_stay_in_step`). The messages must not nest deeper than the decoder
goes: a reply that does is written without complaint and cannot be read
(`deep_reply_not_read_back`).
-/

namespace ScatterGather

open MessagePack

/-! ### Reading a stream -/

namespace Incoming

variable {α : Type} (readMessage : Document → Except Fault α)

/-- Reads so many frames, one after another. -/
def readFrames : Nat → Incoming → List (Except FrameError (Option α)) × Incoming
  | 0, s => ([], s)
  | n + 1, s =>
    let first := s.readFrame readMessage
    let others := readFrames n first.2
    (first.1 :: others.1, others.2)

/-- Reads the opening of a stream and so many frames behind it. -/
def readStream (n : Nat) (s : Incoming) :
    Except FrameError Unit × List (Except FrameError (Option α)) × Incoming :=
  let opening := s.readMagic
  (opening.1, readFrames readMessage n opening.2)

/-- The bytes of payloads in their frames. -/
def frames (payloads : List ByteArray) : List UInt8 :=
  payloads.flatMap fun payload => (Frame.ofPayload payload).data.toList

/-- What is read of payloads. -/
def decoded (payloads : List ByteArray) : List (Except FrameError (Option α)) :=
  payloads.map fun payload => some <$> Frame.decode readMessage payload.data.toList

variable {readMessage}

theorem readFrames_succ (n : Nat) (s : Incoming) :
    readFrames readMessage (n + 1) s =
      ((readFrame readMessage s).1 :: (readFrames readMessage n (readFrame readMessage s).2).1,
        (readFrames readMessage n (readFrame readMessage s).2).2) := rfl

/-- Frames are read one after another, each as its own payload says, and what is behind them is
left. -/
theorem readFrames_frames {payloads : List ByteArray} (n : Nat) (rest : List UInt8)
    (failure : Option String) (h : ∀ payload ∈ payloads, payload.size ≤ Frame.maxPayload) :
    readFrames readMessage (payloads.length + n) ⟨frames payloads ++ rest, failure⟩ =
      (decoded readMessage payloads ++ (readFrames readMessage n ⟨rest, failure⟩).1,
        (readFrames readMessage n ⟨rest, failure⟩).2) := by
  induction payloads with
  | nil => simp [frames, decoded]
  | cons payload payloads ih =>
      obtain ⟨hfirst, hothers⟩ := List.forall_mem_cons.mp h
      have hread : readFrame readMessage ⟨frames (payload :: payloads) ++ rest, failure⟩ =
          (some <$> Frame.decode readMessage payload.data.toList,
            ⟨frames payloads ++ rest, failure⟩) := by
        unfold frames
        rw [List.flatMap_cons, List.append_assoc]
        exact readFrame_ofPayload hfirst
      rw [List.length_cons, Nat.add_right_comm, readFrames_succ, hread, ih hothers]
      rfl

/-- **A stream of frames is read to its end**, whatever its payloads are. -/
theorem readStream_frames {payloads : List ByteArray}
    (h : ∀ payload ∈ payloads, payload.size ≤ Frame.maxPayload) :
    readStream readMessage (payloads.length + 1) ⟨Frame.magic ++ frames payloads, none⟩ =
      (.ok (), decoded readMessage payloads ++ [.ok none], ⟨[], none⟩) := by
  have hframes : readFrames readMessage (payloads.length + 1) ⟨frames payloads, none⟩ =
      (decoded readMessage payloads ++ [.ok none], ⟨[], none⟩) := by
    rw [← List.append_nil (frames payloads)]
    exact readFrames_frames 1 [] none h
  unfold readStream
  rw [readMagic_append]
  simp only [hframes]

end Incoming

/-! ### Writing a stream -/

namespace Outgoing

/-- A writer that has written nothing yet and never fails. -/
def unbounded : Outgoing := ⟨.empty, none, false⟩

variable {s : Outgoing} {messages : List Document}

/-- Messages that have frames are written in their frames, one behind the other. -/
theorem writeFrames_eq_ok (hroom : s.room = none) (hflush : s.flushFails = false)
    (h : ∀ m ∈ messages, (write m).size ≤ Frame.maxPayload) :
    ∃ s', s.writeFrames messages = (.ok (), s') ∧
      s'.written.data.toList = s.written.data.toList ++ Incoming.frames (messages.map write) := by
  induction messages generalizing s with
  | nil => exact ⟨s, rfl, by simp [Incoming.frames]⟩
  | cons m ms ih =>
      obtain ⟨hm, hms⟩ := List.forall_mem_cons.mp h
      obtain ⟨s', hwrite, hbytes⟩ :=
        ih (s := { s with written := s.written ++ Frame.ofPayload (write m) }) hroom hflush hms
      refine ⟨s', ?_, ?_⟩
      · unfold writeFrames writeFrame writeAll flush
        simpa [Frame.encode_of_le hm, hroom, hflush] using hwrite
      · rw [hbytes]
        simp [Incoming.frames]

/-- A stream of messages that have frames is its opening and these frames. -/
theorem writeStream_eq_ok (h : ∀ m ∈ messages, (write m).size ≤ Frame.maxPayload) :
    ∃ s', unbounded.writeStream true messages = (.ok (), s') ∧
      s'.written.data.toList = Frame.magic ++ Incoming.frames (messages.map write) := by
  obtain ⟨s', hwrite, hbytes⟩ := writeFrames_eq_ok
    (s := { unbounded with written := .empty ++ putBytes .empty Frame.magic }) rfl rfl h
  refine ⟨s', ?_, ?_⟩
  · exact hwrite
  · rw [hbytes]
    simp

end Outgoing

/-! ### Keeping in step -/

/-- Reading a stream of frames keeps in step with it. -/
structure KeepsInStep {α : Type} (readMessage : Document → Except Fault α) : Prop where
  /-- Each payload is decoded by itself, in order, and then the stream ends with no byte left. -/
  inOrder : ∀ payloads : List ByteArray, (∀ payload ∈ payloads, payload.size ≤ Frame.maxPayload) →
    Incoming.readStream readMessage (payloads.length + 1)
        ⟨Frame.magic ++ Incoming.frames payloads, none⟩ =
      (.ok (), Incoming.decoded readMessage payloads ++ [.ok none], ⟨[], none⟩)
  /-- No byte behind a frame is taken, on any stream. -/
  leaves : ∀ s : Incoming, (s.readFrame readMessage).2 =
    { s with bytes := s.bytes.drop (Frame.extent ⟨s.bytes.toArray⟩) }
  /-- A frame that has been written is never refused for its length. -/
  accepts : ∀ (message : Document) (frame : ByteArray) (rest : List UInt8)
    (failure : Option String) (n : Nat), Frame.encode message = .ok frame →
    (Incoming.readFrame readMessage ⟨frame.data.toList ++ rest, failure⟩).1 ≠
      .error (.tooLarge n)
  /-- A length that is too great is refused, and only its four bytes are taken. -/
  refuses : ∀ (front rest : List UInt8) (failure : Option String), front.length = 4 →
    Frame.maxPayload < ofBigEndian front →
    Incoming.readFrame readMessage ⟨front ++ rest, failure⟩ =
      (.error (.tooLarge (ofBigEndian front)), ⟨rest, failure⟩)

/-- What is written as a stream of these messages is read as these messages. -/
def ReadBack {α : Type} [Written α] (messages : List α) : Prop :=
  ∃ s, Outgoing.unbounded.writeStream true (messages.map Written.write) = (.ok (), s) ∧
    Incoming.readStream (Written.read reading) (messages.length + 1)
        ⟨s.written.data.toList, none⟩ =
      (.ok (), messages.map (fun m => .ok (some m)) ++ [.ok none], ⟨[], none⟩)

/-- A message can be written in a frame. -/
def HasFrame {α : Type} [Written α] (m : α) : Prop :=
  ∃ frame, Frame.encode (Written.write m) = .ok frame

theorem HasFrame.size_le {α : Type} [Written α] {m : α} (h : HasFrame m) :
    (write (Written.write m)).size ≤ Frame.maxPayload := by
  obtain ⟨frame, hframe⟩ := h
  exact (Frame.encode_eq_ok_iff.mp hframe).1

theorem keepsInStep {α : Type} (readMessage : Document → Except Fault α) :
    KeepsInStep readMessage := by
  constructor
  case inOrder => exact fun _ => Incoming.readStream_frames
  case leaves => exact Incoming.readFrame_leaves
  case refuses => exact fun _ _ _ => Incoming.readFrame_tooLarge
  case accepts =>
    intro message frame rest failure n hframe
    obtain ⟨hsize, rfl⟩ := Frame.encode_eq_ok_iff.mp hframe
    rw [Incoming.readFrame_ofPayload hsize]
    unfold Frame.decode
    split <;> simp

/-- Messages that have frames are read back exactly when each is decoded from its own payload. -/
theorem readBack_iff {α : Type} [Written α] {messages : List α}
    (hcode : ∀ m ∈ messages, HasFrame m) :
    ReadBack messages ↔ ∀ m ∈ messages,
      Frame.decode (Written.read reading) (write (Written.write m)).data.toList = .ok m := by
  have hsizes : ∀ d ∈ messages.map Written.write, (write d).size ≤ Frame.maxPayload := by
    intro d hd
    obtain ⟨m, hm, rfl⟩ := List.mem_map.mp hd
    exact (hcode m hm).size_le
  obtain ⟨s, hwrite, hbytes⟩ := Outgoing.writeStream_eq_ok hsizes
  have hread : ∀ readMessage : Document → Except Fault α,
      Incoming.readStream readMessage (messages.length + 1) ⟨s.written.data.toList, none⟩ =
        (.ok (), Incoming.decoded readMessage ((messages.map Written.write).map write) ++
          [.ok none], ⟨[], none⟩) := by
    intro readMessage
    rw [hbytes]
    simpa using Incoming.readStream_frames (List.forall_mem_map.mpr hsizes)
  have hdecoded : ReadBack messages ↔
      Incoming.decoded (Written.read reading) ((messages.map Written.write).map write) =
        messages.map fun m => .ok (some m) := by
    unfold ReadBack
    rw [hwrite]
    simp [hread]
  rw [hdecoded, Incoming.decoded, List.map_map, List.map_map, List.map_inj_left]
  refine forall₂_congr fun m _ => ?_
  simp only [Function.comp_apply]
  cases Frame.decode (α := α) (Written.read reading) (write (Written.write m)).data.toList <;> simp

/-- **Streams stay in step.** A stream of frames is read frame by frame, whatever the payloads are
and whoever reads them; and every list of requests, and every list of replies that nest no deeper
than the decoder goes, is read back as it was written when each of them has a frame. -/
theorem streams_stay_in_step :
    (∀ {α : Type} (readMessage : Document → Except Fault α), KeepsInStep readMessage) ∧
      (∀ requests : List Request, (∀ q ∈ requests, HasFrame q) → ReadBack requests) ∧
      ∀ replies : List ReplyFrame, (∀ f ∈ replies, HasFrame f) →
        (∀ f ∈ replies, f.reply.Canonical ∧ f.toDocument.depth ≤ nestingLimit) →
        ReadBack replies := by
  refine ⟨keepsInStep, ?_, ?_⟩
  · intro requests hcode
    refine (readBack_iff hcode).mpr fun q hq => ?_
    obtain ⟨_, _, _, hdecode⟩ := q.survives.fits (hcode q hq).size_le
    exact hdecode
  · intro replies hcode h
    refine (readBack_iff hcode).mpr fun f hf => ?_
    obtain ⟨hcanonical, hdepth⟩ := h f hf
    obtain ⟨_, _, _, hdecode⟩ :=
      (ReplyFrame.survives hcanonical hdepth).fits (hcode f hf).size_le
    exact hdecode

/-- A reply with nested cells, twice on one stream. -/
theorem streams_stay_in_step_nested :
    HasFrame nestedReply ∧ nestedReply.reply.Canonical ∧
      nestedReply.toDocument.depth ≤ nestingLimit ∧ ReadBack [nestedReply, nestedReply] := by
  have hcode : HasFrame nestedReply := ⟨_, Frame.encode_of_le size_nestedReply⟩
  refine ⟨hcode, canonical_nestedReply, depth_nestedReply, streams_stay_in_step.2.2 _ ?_ ?_⟩
  · simpa using hcode
  · simpa using ⟨canonical_nestedReply, depth_nestedReply⟩

/-! ### Replies that nest too deep -/

/-- Nothing in so many lists. -/
def Cell.nested : Nat → Cell
  | 0 => .null
  | levels + 1 => .list [nested levels]

theorem Cell.canonical_nested (levels : Nat) : (nested levels).canonical = true := by
  induction levels with
  | zero => simp [nested, canonical]
  | succ levels ih => simpa [nested, canonical, allCanonical] using ih

theorem Cell.depth_nested (levels : Nat) : (nested levels).toDocument.depth = levels := by
  induction levels with
  | zero => simp [nested, toDocument, Document.depth]
  | succ levels ih =>
      simp [nested, toDocument, listToDocument, Document.depth, Document.depthOfItems, ih]

theorem Cell.length_nested (levels : Nat) :
    (octets (nested levels).toDocument).length = levels + 1 := by
  induction levels with
  | zero => simp [nested, toDocument, octets_nil]
  | succ levels ih =>
      simp [nested, toDocument, listToDocument, octets_list, listHead, ih]

/-- A reply with one cell in so many lists. -/
def deepReply (levels : Nat) : ReplyFrame := ⟨1, 0, .rows none [[.nested levels]]⟩

theorem canonical_deepReply (levels : Nat) : (deepReply levels).reply.Canonical := by
  simp [deepReply, Reply.Canonical, Cell.canonical_nested]

theorem depth_deepReply (levels : Nat) : (deepReply levels).toDocument.depth = levels + 4 := by
  simp [deepReply, ReplyFrame.toDocument, Reply.toDocument, Reply.rowsToDocument, Document.record,
    Document.ofOption, Document.ofNat, Document.depth, Document.depthOfEntries,
    Document.depthOfItems, Cell.depth_nested]

/-- Each list around the cell adds one byte. -/
theorem length_deepReply (levels : Nat) :
    (octets (deepReply levels).toDocument).length =
      (octets (deepReply 0).toDocument).length + levels := by
  simp only [deepReply, ReplyFrame.toDocument, Reply.toDocument, Reply.rowsToDocument,
    Document.record, octets_table, octets_list, List.map_cons, List.map_nil, List.flatMap_cons,
    List.flatMap_nil, List.length_append, List.length_cons, Cell.length_nested]
  omega

theorem hasFrame_deepReply {levels : Nat} (h : levels ≤ 4096) : HasFrame (deepReply levels) := by
  have hsmall : (octets (deepReply 0).toDocument).length ≤ 128 := by decide +kernel
  have hlen := length_deepReply levels
  have hsize : (write (deepReply levels).toDocument).size ≤ Frame.maxPayload := by
    rw [← length_octets, hlen]
    unfold Frame.maxPayload
    omega
  exact ⟨_, Frame.encode_of_le hsize⟩

/-- A reply that nests deeper than the decoder goes is not read back. -/
theorem not_readBack_deepReply {levels : Nat} (hdeep : nestingLimit < levels + 4)
    (h : levels ≤ 4096) : ¬ ReadBack [deepReply levels] := by
  intro hback
  have hcode := hasFrame_deepReply h
  have hdecode := (readBack_iff (by simpa using hcode)).mp hback _ List.mem_cons_self
  have hfails : Frame.decode (Written.read reading)
      (write (Written.write (deepReply levels))).data.toList =
        (.error .undecodable : Except FrameError ReplyFrame) :=
    Frame.decode_write_of_lt (deepReply levels).plain_toDocument (depth_deepReply levels ▸ hdeep)
      hcode.size_le
  cases hfails.symm.trans hdecode

/-- A reply that nests too deep is written without complaint and cannot be read. -/
theorem deep_reply_not_read_back :
    (deepReply 1100).reply.Canonical ∧ HasFrame (deepReply 1100) ∧ ¬ ReadBack [deepReply 1100] :=
  ⟨canonical_deepReply 1100, hasFrame_deepReply (by decide),
    not_readBack_deepReply (by decide) (by decide)⟩

end ScatterGather
