import ScatterGather.Proofs.MessagePack.RoundTrip
import ScatterGather.Wire.Frame

/-!
# Writing and reading one frame

A frame is the length of its payload in four bytes with the payload behind it, and a payload that
is too large has none (`Frame.encode_eq_ok_iff`, `Frame.encode_of_lt`). A frame at the front of a
stream is read whole, and what is behind it is left (`Incoming.readFrame_ofPayload`). A payload
decodes to the message it was written from when the message nests no deeper than the decoder goes
(`Frame.decode_write`).
-/

namespace ScatterGather

open MessagePack

/-! ### Writing -/

namespace Frame

variable {message : Document}

/-- A frame is the length of its payload, in four bytes, and the payload. -/
theorem toList_ofPayload (payload : ByteArray) :
    (ofPayload payload).data.toList = bigEndian 4 payload.size ++ payload.data.toList := by
  simp [ofPayload]

theorem encode_of_le (h : (write message).size ≤ maxPayload) :
    encode message = .ok (ofPayload (write message)) := by
  rw [encode, if_neg (Nat.not_lt.mpr h)]

theorem encode_of_lt (h : maxPayload < (write message).size) :
    encode message = .error (.tooLarge (write message).size) := by
  rw [encode, if_pos h]

/-- A message has a frame exactly when its payload is not too large. -/
theorem encode_eq_ok_iff {frame : ByteArray} :
    encode message = .ok frame ↔
      (write message).size ≤ maxPayload ∧ ofPayload (write message) = frame := by
  by_cases h : maxPayload < (write message).size
  · simp [encode_of_lt h, h]
  · have hle := Nat.not_lt.mp h
    simp [encode_of_le hle, hle]

/-- The four bytes in front of a payload say how long it is. -/
theorem ofBigEndian_size {payload : ByteArray} (h : payload.size ≤ maxPayload) :
    ofBigEndian (bigEndian 4 payload.size) = payload.size := by
  refine ofBigEndian_bigEndian ?_
  unfold maxPayload at h
  omega

theorem length_octets_lt (h : (write message).size ≤ maxPayload) :
    (octets message).length < 256 ^ 4 := by
  rw [length_octets]
  unfold maxPayload at h
  omega

/-- A message is decoded from the payload that was written of it. -/
theorem decode_write {α : Type} {readMessage : Document → Except Fault α} {m : α}
    (hplain : message.Plain) (hdepth : message.depth ≤ nestingLimit)
    (hsize : (write message).size ≤ maxPayload) (hread : readMessage message = .ok m) :
    decode readMessage (write message).data.toList = .ok m := by
  unfold decode readRecord?
  rw [← octets, read?_octets hplain (length_octets_lt hsize), if_pos hdepth]
  simp [hread, Except.toOption]

/-- A message that nests deeper than the decoder goes is not decoded. -/
theorem decode_write_of_lt {α : Type} {readMessage : Document → Except Fault α}
    (hplain : message.Plain) (hdepth : nestingLimit < message.depth)
    (hsize : (write message).size ≤ maxPayload) :
    decode readMessage (write message).data.toList = .error .undecodable := by
  unfold decode readRecord?
  rw [← octets, read?_octets hplain (length_octets_lt hsize), if_neg (Nat.not_le.mpr hdepth)]
  rfl

end Frame

/-! ### Reading -/

namespace Incoming

variable {α : Type} {readMessage : Document → Except Fault α} {s : Incoming}
  {front rest : List UInt8} {failure : Option String}

/-- Bytes that are there are read, and those behind them are left. -/
theorem readExact_append {n : Nat} (h : front.length = n) :
    readExact n ⟨front ++ rest, failure⟩ = (.ok front, ⟨rest, failure⟩) := by
  unfold readExact
  rw [split?_append h]

/-- Where too few bytes are left, none is left behind. -/
theorem readExact_of_lt {n : Nat} (h : s.bytes.length < n) :
    readExact n s = (.error s.ending, { s with bytes := [] }) := by
  unfold readExact
  rw [split?_eq_none h]

/-- The opening of a stream is read. -/
theorem readMagic_append :
    readMagic ⟨Frame.magic ++ rest, failure⟩ = (.ok (), ⟨rest, failure⟩) := by
  unfold readMagic
  rw [readExact_append rfl]
  simp

/-- A payload is read whole when the length in front of it is right and not too great. -/
theorem readPayload_append {payload : List UInt8} (hfront : front.length = 4)
    (hlen : payload.length = ofBigEndian front) (h : ofBigEndian front ≤ Frame.maxPayload) :
    readPayload ⟨front ++ (payload ++ rest), failure⟩ = (.ok (some payload), ⟨rest, failure⟩) := by
  unfold readPayload
  rw [readExact_append hfront]
  simp only [if_neg (Nat.not_lt.mpr h), readExact_append hlen]

/-- A length that is too great is read, and nothing behind it. -/
theorem readPayload_tooLarge (hfront : front.length = 4)
    (h : Frame.maxPayload < ofBigEndian front) :
    readPayload ⟨front ++ rest, failure⟩ =
      (.error (.tooLarge (ofBigEndian front)), ⟨rest, failure⟩) := by
  unfold readPayload
  rw [readExact_append hfront]
  simp only [if_pos h]

/-- A frame is read whole, and what is behind it is left. -/
theorem readFrame_ofPayload {payload : ByteArray} (h : payload.size ≤ Frame.maxPayload) :
    readFrame readMessage ⟨(Frame.ofPayload payload).data.toList ++ rest, failure⟩ =
      (some <$> Frame.decode readMessage payload.data.toList, ⟨rest, failure⟩) := by
  have hsize := Frame.ofBigEndian_size h
  unfold readFrame
  rw [Frame.toList_ofPayload, List.append_assoc,
    readPayload_append (length_bigEndian 4 payload.size) hsize.symm
      (Nat.le_trans (Nat.le_of_eq hsize) h)]

/-- A length that is too great is read, and nothing behind it. -/
theorem readFrame_tooLarge (hfront : front.length = 4)
    (h : Frame.maxPayload < ofBigEndian front) :
    readFrame readMessage ⟨front ++ rest, failure⟩ =
      (.error (.tooLarge (ofBigEndian front)), ⟨rest, failure⟩) := by
  unfold readFrame
  rw [readPayload_tooLarge hfront h]

/-! ### What reading leaves -/

theorem readExact_of_le {n : Nat} (h : n ≤ s.bytes.length) :
    readExact n s = (.ok (s.bytes.take n), { s with bytes := s.bytes.drop n }) := by
  have hfront : (s.bytes.take n).length = n := List.length_take_of_le h
  calc readExact n s
      = readExact n ⟨s.bytes.take n ++ s.bytes.drop n, s.failure⟩ := by
        rw [List.take_append_drop]
    _ = (.ok (s.bytes.take n), ⟨s.bytes.drop n, s.failure⟩) := readExact_append hfront

/-- Reading bytes takes these bytes, as far as they are there. -/
theorem readExact_leaves (n : Nat) (s : Incoming) :
    (readExact n s).2 = { s with bytes := s.bytes.drop n } := by
  by_cases h : s.bytes.length < n
  · rw [readExact_of_lt h, List.drop_of_length_le (Nat.le_of_lt h)]
  · rw [readExact_of_le (Nat.not_lt.mp h)]

/-- How many bytes there must be, by the first of them. -/
theorem extent_toArray (bytes : List UInt8) :
    Frame.extent ⟨bytes.toArray⟩ =
      if bytes.length < 4 then 4
      else if Frame.maxPayload < ofBigEndian (bytes.take 4) then 4
      else 4 + ofBigEndian (bytes.take 4) := by
  have hsize : (ByteArray.mk bytes.toArray).size = bytes.length := by simp [ByteArray.size]
  have hfront : ((ByteArray.mk bytes.toArray).extract 0 4).data.toList = bytes.take 4 := by simp
  unfold Frame.extent
  simp only [hsize, hfront]

theorem readPayload_leaves (s : Incoming) :
    (readPayload s).2 =
      { s with bytes := s.bytes.drop (Frame.extent ⟨s.bytes.toArray⟩) } := by
  rw [extent_toArray]
  unfold readPayload
  by_cases hfour : s.bytes.length < 4
  · rw [if_pos hfour, readExact_of_lt hfour, List.drop_of_length_le (Nat.le_of_lt hfour)]
    split <;> simp_all
  · rw [if_neg hfour, readExact_of_le (Nat.not_lt.mp hfour)]
    by_cases hsize : Frame.maxPayload < ofBigEndian (s.bytes.take 4)
    · simp only [if_pos hsize]
    · have hleaves := readExact_leaves (ofBigEndian (s.bytes.take 4))
        { s with bytes := s.bytes.drop 4 }
      rw [List.drop_drop] at hleaves
      simp only [if_neg hsize]
      split <;> simp_all

/-- **Reading a frame takes as many bytes as the frame has**, as far as they are there. -/
theorem readFrame_leaves (s : Incoming) :
    (readFrame readMessage s).2 =
      { s with bytes := s.bytes.drop (Frame.extent ⟨s.bytes.toArray⟩) } := by
  rw [← readPayload_leaves]
  unfold readFrame
  split <;> simp_all

end Incoming

end ScatterGather
