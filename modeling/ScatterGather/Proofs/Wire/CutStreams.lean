import Mathlib.Data.List.TakeDrop
import ScatterGather.Proofs.Wire.Streams

/-!
# Streams that are cut off

A stream of frames may end anywhere. Wherever it does, some frames lie whole before the end and of
the next one there is a part, perhaps none of it (`exists_cutOff`, by induction on the payloads).
The whole frames are read as if nothing had happened; then the reader meets the part, and what it
reports depends on the length of the part alone (`readPayload_part`). A part that reaches into the
payload is an error, and no part at all is the end between two frames.

In between the reader cannot tell: one, two or three bytes of a length count as none, and a stream
that is cut there is taken for one that was closed (`cut_streams`, and
`length_cut_reads_as_closed` for a stream where that goes wrong).
-/

namespace ScatterGather

open MessagePack

namespace Incoming

/-! ### Where a stream is cut -/

/-- The stream that ends at a position holds so many frames whole, and a part of the next one. -/
structure CutOff (payloads : List ByteArray) (position whole : Nat) (part : List UInt8) : Prop where
  bytes : (frames payloads).take position = frames (payloads.take whole) ++ part
  whole_le : whole ≤ payloads.length
  /-- The part misses something of its frame. -/
  proper : part = [] ∨ ∃ payload missing, payloads[whole]? = some payload ∧
    (Frame.ofPayload payload).data.toList = part ++ missing ∧ missing ≠ []

/-- The stream that ends at a position holds whole frames and nothing else. -/
def EndsBetween (payloads : List ByteArray) (position : Nat) : Prop :=
  ∃ whole, (frames payloads).take position = frames (payloads.take whole)

variable {payloads : List ByteArray} {position whole : Nat} {part : List UInt8}

theorem frames_cons (payload : ByteArray) (payloads : List ByteArray) :
    frames (payload :: payloads) = (Frame.ofPayload payload).data.toList ++ frames payloads :=
  List.flatMap_cons

/-- Wherever a stream is cut, whole frames lie before the cut and then a part of one. -/
theorem exists_cutOff (payloads : List ByteArray) (position : Nat) :
    ∃ whole part, CutOff payloads position whole part := by
  induction payloads generalizing position with
  | nil => exact ⟨0, [], by simp [frames], Nat.le_refl 0, .inl rfl⟩
  | cons payload payloads ih =>
      let frame := (Frame.ofPayload payload).data.toList
      by_cases hinside : position < frame.length
      · refine ⟨0, frame.take position, ?_, Nat.zero_le _,
          .inr ⟨payload, frame.drop position, rfl, (List.take_append_drop _ _).symm, ?_⟩⟩
        · rw [frames_cons, List.take_append_of_le_length (Nat.le_of_lt hinside)]
          rfl
        · exact fun hnil => Nat.not_le.mpr hinside (List.drop_eq_nil_iff.mp hnil)
      · obtain ⟨whole, part, h⟩ := ih (position - frame.length)
        refine ⟨whole + 1, part, ?_, Nat.succ_le_succ h.whole_le, by simpa using h.proper⟩
        rw [frames_cons, List.take_append, List.take_of_length_le (Nat.not_lt.mp hinside), h.bytes,
          List.take_succ_cons, frames_cons, List.append_assoc]

theorem CutOff.length_take (h : CutOff payloads position whole part) :
    (payloads.take whole).length = whole :=
  List.length_take_of_le h.whole_le

/-- Fewer frames have fewer bytes. -/
theorem length_frames_take_le {m n : Nat} (h : m ≤ n) :
    (frames (payloads.take m)).length ≤ (frames (payloads.take n)).length := by
  obtain ⟨others, hothers⟩ := List.take_prefix_take_left (l := payloads) h
  rw [← hothers, frames, frames, List.flatMap_append, List.length_append]
  exact Nat.le_add_right _ _

/-- **A stream ends between two frames exactly when no part of a frame is left over.** -/
theorem CutOff.endsBetween_iff (h : CutOff payloads position whole part) :
    EndsBetween payloads position ↔ part = [] := by
  constructor
  · rintro ⟨n, hn⟩
    have hlen := congrArg List.length (h.bytes.symm.trans hn)
    rw [List.length_append] at hlen
    rcases h.proper with hnone | ⟨payload, missing, hpayload, hframe, hmissing⟩
    · exact hnone
    rcases Nat.lt_or_ge whole n with hlt | hge
    · -- One frame more has more bytes than the part of it.
      have hmore : (frames (payloads.take (whole + 1))).length ≤
          (frames (payloads.take n)).length := length_frames_take_le hlt
      have hone : (frames (payloads.take (whole + 1))).length =
          (frames (payloads.take whole)).length + (part ++ missing).length := by
        rw [List.take_add_one, hpayload, Option.toList_some, frames, List.flatMap_append,
          List.length_append, ← frames, List.flatMap_singleton, hframe]
      have hpos := List.length_pos_of_ne_nil hmissing
      rw [List.length_append] at hone
      omega
    · have hfewer : (frames (payloads.take n)).length ≤
          (frames (payloads.take whole)).length := length_frames_take_le hge
      exact List.eq_nil_of_length_eq_zero (by omega)
  · rintro rfl
    exact ⟨whole, by simpa using h.bytes⟩

/-! ### What is read up to the cut -/

/-- What a reader reports of a part of a frame behind which its stream ends. -/
def reported {α : Type} (part : List UInt8) : Except FrameError (Option α) :=
  if part.length < 4 then .ok none else .error .cut

/-- A part of a frame is used up, and the reader reports an error when it has read the length. -/
theorem readPayload_part {payload : ByteArray} {missing : List UInt8}
    (hsize : payload.size ≤ Frame.maxPayload)
    (hframe : (Frame.ofPayload payload).data.toList = part ++ missing) (hmissing : missing ≠ []) :
    readPayload ⟨part, none⟩ = (reported part, ⟨[], none⟩) := by
  unfold readPayload reported
  by_cases hfour : part.length < 4
  · rw [readExact_of_lt hfour, if_pos hfour]
    rfl
  · rw [readExact_of_le (Nat.not_lt.mp hfour), if_neg hfour]
    have hfront : part.take 4 = bigEndian 4 payload.size := by
      have htake := congrArg (List.take 4) hframe
      rw [Frame.toList_ofPayload, List.take_left' (length_bigEndian 4 payload.size),
        List.take_append_of_le_length (Nat.not_lt.mp hfour)] at htake
      exact htake.symm
    have hshort : (part.drop 4).length < payload.size := by
      have hlen := congrArg List.length hframe
      have hpos := List.length_pos_of_ne_nil hmissing
      rw [Frame.toList_ofPayload, List.length_append, List.length_append, length_bigEndian] at hlen
      have hpayload : payload.data.toList.length = payload.size := rfl
      rw [List.length_drop]
      omega
    have hrest : readExact payload.size ⟨part.drop 4, none⟩ = (.error .cut, ⟨[], none⟩) :=
      readExact_of_lt hshort
    simp only [hfront, Frame.ofBigEndian_size hsize, if_neg (Nat.not_lt.mpr hsize), hrest]

variable {α : Type} {readMessage : Document → Except Fault α}

/-- **The frames before a cut are read, and then the reader reports what is left of the next.** -/
theorem CutOff.read (h : CutOff payloads position whole part)
    (hsizes : ∀ payload ∈ payloads, payload.size ≤ Frame.maxPayload) :
    readFrames readMessage (whole + 1) ⟨(frames payloads).take position, none⟩ =
      (decoded readMessage (payloads.take whole) ++ [reported part], ⟨[], none⟩) := by
  have hpart : readPayload ⟨part, none⟩ = (reported part, ⟨[], none⟩) := by
    rcases h.proper with rfl | ⟨payload, missing, hpayload, hframe, hmissing⟩
    · rfl
    · exact readPayload_part (hsizes _ (List.mem_of_getElem? hpayload)) hframe hmissing
  have hlast : readFrame readMessage ⟨part, none⟩ = (reported part, ⟨[], none⟩) := by
    unfold readFrame
    rw [hpart]
    unfold reported
    by_cases hfour : part.length < 4
    · simp only [if_pos hfour]
    · simp only [if_neg hfour]
  have hwhole : ∀ payload ∈ payloads.take whole, payload.size ≤ Frame.maxPayload :=
    fun payload hp => hsizes payload (List.mem_of_mem_take hp)
  rw [h.bytes]
  calc readFrames readMessage (whole + 1) ⟨frames (payloads.take whole) ++ part, none⟩
      = (decoded readMessage (payloads.take whole) ++
          (readFrames readMessage 1 ⟨part, none⟩).1,
          (readFrames readMessage 1 ⟨part, none⟩).2) := by
        rw [← readFrames_frames 1 part none hwhole, h.length_take]
    _ = (decoded readMessage (payloads.take whole) ++ [reported part], ⟨[], none⟩) := by
        rw [readFrames_succ, hlast]
        rfl

/-! ### Cut or closed -/

/-- The end of a stream is reported for what it is: as closed between two frames, and as an error
anywhere else. -/
structure ToldApart {α : Type} (payloads : List ByteArray) (position : Nat)
    (last : Except FrameError (Option α)) : Prop where
  closed : last = .ok none ↔ EndsBetween payloads position
  cut : ¬ EndsBetween payloads position → ∃ e, last = .error e

/-- **The end is reported for what it is unless it is inside a length.** -/
theorem CutOff.toldApart_iff (h : CutOff payloads position whole part) :
    ToldApart payloads position (reported (α := α) part) ↔
      ¬ (0 < part.length ∧ part.length < 4) := by
  constructor
  · rintro htold ⟨hsome, hfour⟩
    have hclosed : reported (α := α) part = .ok none := if_pos hfour
    rw [h.endsBetween_iff.mp (htold.closed.mp hclosed)] at hsome
    cases hsome
  · intro houtside
    rcases Nat.eq_zero_or_pos part.length with hnone | hsome
    · -- The stream ends between two frames.
      have hbetween := h.endsBetween_iff.mpr (List.eq_nil_of_length_eq_zero hnone)
      have hclosed : reported (α := α) part = .ok none := if_pos (by omega)
      exact ⟨iff_of_true hclosed hbetween, fun hnot => absurd hbetween hnot⟩
    · -- It ends inside a payload.
      have hnot : ¬ EndsBetween payloads position := fun hbetween => by
        rw [h.endsBetween_iff.mp hbetween] at hsome
        cases hsome
      have hcut : reported (α := α) part = .error .cut := if_neg fun hfour =>
        houtside ⟨hsome, hfour⟩
      refine ⟨iff_of_false (fun hclosed => ?_) hnot, fun _ => ⟨_, hcut⟩⟩
      cases hcut.symm.trans hclosed

end Incoming

/-- The payloads in which messages are written. -/
def payloadsOf {α : Type} [Written α] (messages : List α) : List ByteArray :=
  messages.map fun m => write (Written.write m)

/-- What a reader makes of messages that were written as a stream, when that ends at a position: so
many of them lie whole before the end, and a part of the next one. -/
structure ReadToCut {α : Type} [Written α] (plain : α → Prop) (messages : List α)
    (position whole : Nat) (part : List UInt8) : Prop where
  /-- The stream is what is written of the messages. -/
  written : ∃ s, Outgoing.unbounded.writeFrames (messages.map Written.write) = (.ok (), s) ∧
    s.written.data.toList = Incoming.frames (payloadsOf messages)
  cutOff : Incoming.CutOff (payloadsOf messages) position whole part
  /-- The whole ones are read, each as its payload says, and then no byte is left. -/
  read : Incoming.readFrames (α := α) (Written.read reading) (whole + 1)
      ⟨(Incoming.frames (payloadsOf messages)).take position, none⟩ =
    (Incoming.decoded (Written.read reading) (payloadsOf (messages.take whole)) ++
      [Incoming.reported part], ⟨[], none⟩)
  /-- A payload says what was written. -/
  returned : ∀ m ∈ messages, plain m →
    Frame.decode (Written.read reading) (write (Written.write m)).data.toList = .ok m
  /-- The end is reported for what it is unless it is inside a length. -/
  toldApart : Incoming.ToldApart (payloadsOf messages) position (Incoming.reported (α := α) part) ↔
    ¬ (0 < part.length ∧ part.length < 4)

/-- Messages that have frames are read up to any cut. -/
theorem exists_readToCut {α : Type} [Written α] {plain : α → Prop} {messages : List α}
    (hcode : ∀ m ∈ messages, HasFrame m) (hsurvive : ∀ m ∈ messages, plain m → Survives m)
    (position : Nat) : ∃ whole part, ReadToCut plain messages position whole part := by
  have hsizes : ∀ payload ∈ payloadsOf messages, payload.size ≤ Frame.maxPayload :=
    List.forall_mem_map.mpr fun m hm => (hcode m hm).size_le
  have hdocuments : ∀ d ∈ messages.map Written.write, (write d).size ≤ Frame.maxPayload :=
    List.forall_mem_map.mpr fun m hm => (hcode m hm).size_le
  obtain ⟨s, hwrite, hbytes⟩ :=
    Outgoing.writeFrames_eq_ok (s := Outgoing.unbounded) rfl rfl hdocuments
  rw [List.map_map] at hbytes
  obtain ⟨whole, part, h⟩ := Incoming.exists_cutOff (payloadsOf messages) position
  refine ⟨whole, part, ⟨s, hwrite, hbytes⟩, h, ?_, fun m hm hplain => ?_, h.toldApart_iff⟩
  · rw [h.read hsizes, payloadsOf, payloadsOf, List.map_take]
  · obtain ⟨_, _, _, hdecode⟩ := (hsurvive m hm hplain).fits (hcode m hm).size_le
    exact hdecode

/-- **A stream that is cut is read up to the cut, and told apart from a closed one unless it is cut
inside a length.** So it is for requests and for replies, wherever the stream ends; and what is read
is what was written, for every request and for every reply that nests no deeper than the decoder
goes. -/
theorem cut_streams (requests : List Request) (replies : List ReplyFrame)
    (hrequests : ∀ q ∈ requests, HasFrame q) (hreplies : ∀ f ∈ replies, HasFrame f)
    (position : Nat) :
    (∃ whole part, ReadToCut (fun _ => True) requests position whole part) ∧
      ∃ whole part, ReadToCut (fun f : ReplyFrame => f.reply.Canonical ∧
        f.toDocument.depth ≤ nestingLimit) replies position whole part :=
  ⟨exists_readToCut hrequests (fun q _ _ => q.survives) position,
    exists_readToCut hreplies (fun _ _ h => ReplyFrame.survives h.1 h.2) position⟩

/-- The nested reply twice, cut inside the payload of the second. -/
theorem cut_streams_nested :
    HasFrame nestedReply ∧ nestedReply.reply.Canonical ∧
      nestedReply.toDocument.depth ≤ nestingLimit ∧
      ∃ whole part, ReadToCut (fun f : ReplyFrame => f.reply.Canonical ∧
        f.toDocument.depth ≤ nestingLimit) [nestedReply, nestedReply] 200 whole part := by
  have hcode : HasFrame nestedReply := ⟨_, Frame.encode_of_le size_nestedReply⟩
  refine ⟨hcode, canonical_nestedReply, depth_nestedReply, (cut_streams [] _ nofun ?_ 200).2⟩
  simpa using hcode

/-! ### A length that is cut -/

/-- A request for one number. -/
def selectOne : Request := ⟨3, 0, "SELECT 1", false, false, none⟩

/-- Two requests, the second of them cut after three bytes of its length: the first is read, and
then the stream is taken for one that was closed between two frames. -/
theorem length_cut_reads_as_closed :
    let payload := write (Written.write selectOne)
    HasFrame selectOne ∧
      Incoming.readFrames (Written.read reading) 2
          ⟨(Incoming.frames [payload, payload]).take 90, none⟩ =
        ([.ok (some selectOne), .ok none], ⟨[], none⟩) ∧
      ¬ Incoming.EndsBetween [payload, payload] 90 := by
  intro payload
  have hsize : payload.size ≤ Frame.maxPayload := by decide +kernel
  have hcut : Incoming.CutOff [payload, payload] 90 1 [0, 0, 0] := by
    let missing := (Frame.ofPayload payload).data.toList.drop 3
    exact ⟨by decide +kernel, by decide, .inr ⟨payload, missing, rfl, by decide +kernel,
      by decide +kernel⟩⟩
  have hdecode : Frame.decode (Written.read reading) payload.data.toList = .ok selectOne := by
    obtain ⟨_, _, _, hdecode⟩ := selectOne.survives.fits hsize
    exact hdecode
  refine ⟨⟨_, Frame.encode_of_le hsize⟩, ?_, ?_⟩
  · rw [hcut.read (by simpa using hsize), List.take_succ_cons, List.take_zero, Incoming.decoded,
      List.map_singleton, hdecode]
    rfl
  · rw [hcut.endsBetween_iff]
    decide

end ScatterGather
