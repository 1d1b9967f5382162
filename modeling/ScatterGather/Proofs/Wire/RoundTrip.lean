import ScatterGather.Proofs.Wire.Frames
import ScatterGather.Proofs.Wire.Messages

/-!
# Messages survive their frames

A message whose payload is not too large has a frame, which says how long the payload is, and is
decoded from the payload as it was; a message whose payload is too large has no frame
(`survives`). This holds of every request, and of every reply that nests no deeper than the decoder
goes (`messages_survive`).
-/

namespace ScatterGather

open MessagePack

/-- A frame announces its payload in four bytes, the most significant first, and ends with it. -/
structure Frame.Holds (frame payload : ByteArray) : Prop where
  announced : (frame.data.toList.take 4).length = 4
  size : ofBigEndian (frame.data.toList.take 4) = payload.size
  payload : frame.data.toList.drop 4 = payload.data.toList

/-- A message comes through its frame: it has one when its payload is not too large, and none
otherwise, and what is decoded of the payload is the message. -/
structure Survives {α : Type} [Written α] (m : α) : Prop where
  fits : (write (Written.write m)).size ≤ Frame.maxPayload →
    ∃ frame, Frame.encode (Written.write m) = .ok frame ∧
      Frame.Holds frame (write (Written.write m)) ∧
      Frame.decode (Written.read reading) (write (Written.write m)).data.toList = .ok m
  tooLarge : Frame.maxPayload < (write (Written.write m)).size →
    Frame.encode (Written.write m) = .error (.tooLarge (write (Written.write m)).size)

/-- The frame of a payload that is not too large holds it. -/
theorem Frame.holds_ofPayload {payload : ByteArray} (h : payload.size ≤ maxPayload) :
    Holds (ofPayload payload) payload := by
  have hlen : (bigEndian 4 payload.size).length = 4 := length_bigEndian 4 payload.size
  constructor
  · rw [toList_ofPayload, List.take_left' hlen, hlen]
  · rw [toList_ofPayload, List.take_left' hlen, ofBigEndian_size h]
  · rw [toList_ofPayload, List.drop_left' hlen]

/-- A message comes through when it is read back from its written form, which is plain and nests no
deeper than the decoder goes. -/
theorem survives {α : Type} [Written α] {m : α} (hplain : (Written.write m).Plain)
    (hdepth : (Written.write m).depth ≤ nestingLimit)
    (hread : Written.read reading (Written.write m) = .ok m) : Survives m := by
  constructor
  · intro hsize
    exact ⟨_, Frame.encode_of_le hsize, Frame.holds_ofPayload hsize,
      Frame.decode_write hplain hdepth hsize hread⟩
  · intro hsize
    exact Frame.encode_of_lt hsize

/-- Every request comes through. -/
theorem Request.survives (q : Request) : Survives q := by
  have hdepth : q.toDocument.depth ≤ nestingLimit := Nat.le_trans q.depth_toDocument (by decide)
  exact ScatterGather.survives q.plain_toDocument hdepth q.ofDocument_toDocument

/-- Every canonical reply that nests no deeper than the decoder goes comes through. -/
theorem ReplyFrame.survives {f : ReplyFrame} (h : f.reply.Canonical)
    (hdepth : f.toDocument.depth ≤ nestingLimit) : Survives f :=
  ScatterGather.survives f.plain_toDocument hdepth (f.ofDocument_toDocument h hdepth)

/-- **Messages survive their frames.** Every request, and every reply of any kind whose records have
their names in order, comes through its frame when it nests no deeper than the decoder goes. -/
theorem messages_survive :
    (∀ q : Request, Survives q) ∧
      ∀ f : ReplyFrame, f.reply.Canonical → f.toDocument.depth ≤ nestingLimit → Survives f :=
  ⟨Request.survives, fun _ => ReplyFrame.survives⟩

/-- A row with a number, a list and a record. -/
def nestedReply : ReplyFrame where
  correlationId := 0xffffffffffffffff
  unitIndex := 200
  reply := .rows (some ⟨[⟨"id", some "orders", .integer⟩, ⟨"tags", none, .text⟩]⟩)
    [[.integer (.ofUInt64 70000), .list [.null, .record [("a", .bool true), ("b", .text "é")]]]]

theorem canonical_nestedReply : nestedReply.reply.Canonical := by
  unfold Reply.Canonical nestedReply
  decide +kernel

theorem depth_nestedReply : nestedReply.toDocument.depth ≤ nestingLimit := by
  decide

theorem size_nestedReply : (write nestedReply.toDocument).size ≤ Frame.maxPayload := by
  decide +kernel

/-- The reply with its nested cells comes through. -/
theorem messages_survive_nested :
    nestedReply.reply.Canonical ∧ nestedReply.toDocument.depth ≤ nestingLimit ∧
      (write nestedReply.toDocument).size ≤ Frame.maxPayload ∧ Survives nestedReply :=
  ⟨canonical_nestedReply, depth_nestedReply, size_nestedReply,
    messages_survive.2 nestedReply canonical_nestedReply depth_nestedReply⟩

end ScatterGather
