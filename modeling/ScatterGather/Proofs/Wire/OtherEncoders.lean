import ScatterGather.Proofs.Wire.Frames
import ScatterGather.Proofs.Wire.Layouts

/-!
# Frames of other encoders

A peer need not write its messages as they are written here. The payloads it may send are told in
two steps: which documents it may write of a message, the forms of the layout of the message, and
which bytes say such a document. All of them are decoded to the message as long as they have no
fault and nest no deeper than the decoder goes, and all others are refused (`other_encoders`).
-/

namespace ScatterGather

open Layout MessagePack

/-- Every payload that may be written of a layout is decoded to the message if it has no fault and
does not nest too deep, and is refused otherwise. -/
def DecodedFrom {α : Type} [Written α] (l : Layout) (m : α) : Prop :=
  ∀ faulty d bytes, Form faulty l d → Spells d bytes →
    Frame.decode (Written.read reading) bytes =
      if faulty = false ∧ d.depth ≤ nestingLimit then .ok m else .error .undecodable

/-- What is read from the forms of a layout is decoded from the bytes that say them. -/
theorem decodedFrom {α : Type} [Written α] {l : Layout} {m : α}
    (h : Reads nestingLimit (Written.read reading) l m) : DecodedFrom l m := by
  intro faulty d bytes hform hspells
  have hread : read? bytes = if d.depth ≤ nestingLimit then some (d, []) else none := by
    have := hspells.readWithin?_append nestingLimit []
    rwa [List.append_nil] at this
  unfold Frame.decode readRecord?
  rw [hread]
  by_cases hdepth : d.depth ≤ nestingLimit
  · simp only [if_pos hdepth, Option.bind_eq_bind, Option.bind_some, h faulty d hform hdepth]
    cases faulty with
    | true => rfl
    | false => simp [hdepth]
  · simp [hdepth]

/-- **Messages may be written by other encoders.** For every request and every frame, the payloads
in which fields stand in another order, unknown ones stand between them, fields are left out whose
value is the default, and numbers are wider than they need be, are decoded to the message as long
as they do not nest too deep; what is written of a message here is one of its forms. A payload in
which a field stands twice, or one is missing that has no default, is refused. -/
theorem other_encoders :
    (∀ q : Request, DecodedFrom q.layout q ∧ Form false q.layout q.toDocument) ∧
      ∀ f : ReplyFrame, f.reply.Canonical →
        DecodedFrom f.layout f ∧ Form false f.layout f.toDocument :=
  ⟨fun q => ⟨decodedFrom q.reads, q.form_toDocument⟩,
    fun f h => ⟨decodedFrom (ReplyFrame.reads reading h), f.form_toDocument⟩⟩

/-- A frame whose reply has no insert id. -/
def plainFrame : ReplyFrame := ⟨1, 2, .ok 3 0⟩

/-- The reply of the frame with its status behind the count and an unknown field in front, and
without the insert id. -/
def mixedReply : Document :=
  .record [("extra", .list [.nil]), ("affected_rows", .integer 3), ("status", .text "ok")]

/-- The frame with its fields backwards and an unknown field in front. -/
def mixedFrame : Document :=
  .record [("note", .text "é"), ("reply", mixedReply), ("unit_index", .integer 2),
    ("correlation_id", .integer 1)]

theorem form_mixedReply : Form false plainFrame.reply.layout mixedReply := by
  refine @Form.record false _ [("status", .text "ok"), ("affected_rows", .integer 3)]
    [("extra", .list [.nil])] [] _ ?_ (by decide) (List.forall_mem_nil _) ?_ ?_
  · exact fieldForms_keep (.leaf _) (fieldForms_keep (.leaf _) (fieldForms_leave rfl .nil))
  · simpa using Document.Plain.list (by simpa using Document.Plain.nil)
  · exact @List.reverse_perm (String × Document)
      [("status", .text "ok"), ("affected_rows", .integer 3), ("extra", .list [.nil])]

theorem form_mixedFrame : Form false plainFrame.layout mixedFrame := by
  refine @Form.record false _
    [("correlation_id", .integer 1), ("unit_index", .integer 2), ("reply", mixedReply)]
    [("note", .text "é")] [] _ ?_ (by decide) (List.forall_mem_nil _) ?_ ?_
  · exact fieldForms_keep (.leaf _) (fieldForms_keep (.leaf _)
      (fieldForms_keep form_mixedReply .nil))
  · simpa using Document.Plain.text "é"
  · exact List.reverse_perm [("correlation_id", .integer 1), ("unit_index", .integer 2),
      ("reply", mixedReply), ("note", .text "é")]

/-- The frame in bytes, its numbers in two and in eight of them. -/
def mixedBytes : List UInt8 :=
  [0x84, 0xa4, 0x6e, 0x6f, 0x74, 0x65, 0xa2, 0xc3, 0xa9,
    0xa5, 0x72, 0x65, 0x70, 0x6c, 0x79,
      0x83, 0xa5, 0x65, 0x78, 0x74, 0x72, 0x61, 0x91, 0xc0,
        0xad, 0x61, 0x66, 0x66, 0x65, 0x63, 0x74, 0x65, 0x64, 0x5f, 0x72, 0x6f, 0x77, 0x73,
          0xcd, 0x00, 0x03,
        0xa6, 0x73, 0x74, 0x61, 0x74, 0x75, 0x73, 0xa2, 0x6f, 0x6b,
    0xaa, 0x75, 0x6e, 0x69, 0x74, 0x5f, 0x69, 0x6e, 0x64, 0x65, 0x78, 0xd1, 0x00, 0x02,
    0xae, 0x63, 0x6f, 0x72, 0x72, 0x65, 0x6c, 0x61, 0x74, 0x69, 0x6f, 0x6e, 0x5f, 0x69, 0x64,
      0xcf, 0x00, 0x00, 0x00, 0x00, 0x00, 0x00, 0x00, 0x01]

theorem spells_mixedFrame : Spells mixedFrame mixedBytes := by
  have htext : ∀ s : String, s.utf8ByteSize < 256 ^ 4 →
      Spells (.text s) (textHead s.utf8ByteSize ++ s.toUTF8.data.toList) := .text
  have hrows : Spells (.integer 3) (0xcd :: bigEndian 2 3) :=
    .integer (@IntegerForm.unsigned 3 2 0xcd (by decide) (by decide))
  have hindex : Spells (.integer 2) (0xd1 :: bigEndian 2 2) :=
    .integer (@IntegerForm.signed 2 2 0xd1 (by decide) (by decide))
  have hid : Spells (.integer 1) (0xcf :: bigEndian 8 1) :=
    .integer (@IntegerForm.unsigned 1 8 0xcf (by decide) (by decide))
  have hreply := Spells.table (by decide) (.cons (htext "extra" (by decide))
    (.list (by decide) (.cons .nil .nil)) (.cons (htext "affected_rows" (by decide)) hrows
      (.cons (htext "status" (by decide)) (htext "ok" (by decide)) .nil)))
  have hframe := Spells.table (by decide) (.cons (htext "note" (by decide)) (htext "é" (by decide))
    (.cons (htext "reply" (by decide)) hreply (.cons (htext "unit_index" (by decide)) hindex
      (.cons (htext "correlation_id" (by decide)) hid .nil))))
  exact hframe

theorem other_encoders_mixed :
    Form false plainFrame.layout mixedFrame ∧ Spells mixedFrame mixedBytes ∧
      plainFrame.reply.Canonical ∧
        Frame.decode (Written.read reading) mixedBytes = .ok plainFrame := by
  have hdepth : mixedFrame.depth ≤ nestingLimit := by decide
  have hdecoded := (other_encoders.2 plainFrame trivial).1 false mixedFrame mixedBytes
    form_mixedFrame spells_mixedFrame
  rw [if_pos ⟨rfl, hdepth⟩] at hdecoded
  exact ⟨form_mixedFrame, spells_mixedFrame, trivial, hdecoded⟩

end ScatterGather
