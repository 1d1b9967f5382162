import ScatterGather.Proofs.Cell.ReadBack
import ScatterGather.Wire.Message

/-!
# Messages are read back

Every request is read back from its written form (`Request.ofDocument_toDocument`), and so is every
frame with a reply that nests no deeper than the reading allows, as long as its cells are canonical
(`ReplyFrame.ofDocument_toDocument`). The depth counts because a reply is set aside whole until its
status has been found.
-/

namespace ScatterGather

open Document

/-! ### Causes and metadata -/

theorem Document.plain_optionalField {α : Type} {name : String} {write : α → Document}
    (h : ∀ a, (write a).Plain) (o : Option α) : ∀ f ∈ optionalField name write o, f.2.Plain := by
  cases o with
  | none => simp [optionalField]
  | some a => simpa [optionalField] using h a

theorem DriverCause.ofDocument_toDocument (c : DriverCause) : ofDocument c.toDocument = .ok c := by
  obtain ⟨code, sqlState, message⟩ := c
  cases code <;> cases sqlState <;>
    simp [ofDocument, toDocument, optionalField, fields, bind, Except.bind, pure, Except.pure]

theorem DriverCause.plain_toDocument (c : DriverCause) : c.toDocument.Plain := by
  unfold toDocument
  refine plain_record ?_
  simp only [List.forall_mem_append, List.forall_mem_singleton]
  exact ⟨⟨plain_optionalField (fun n => plain_ofNat (by have := n.toNat_lt; omega)) _,
    plain_optionalField .text _⟩, .text _⟩

theorem ColumnType.ofDocument_toDocument (r : Reading) (t : ColumnType) :
    Named.ofDocument r (Named.toDocument t) = .ok t := by
  cases t <;> rfl

theorem ColumnMetadata.ofDocument_toDocument (r : Reading) (c : ColumnMetadata) :
    ofDocument r c.toDocument = .ok c := by
  obtain ⟨name, table, columnType⟩ := c
  cases table <;>
    simp [ofDocument, toDocument, optionalField, fields, ColumnType.ofDocument_toDocument, bind,
      Except.bind, pure, Except.pure]

theorem ColumnMetadata.plain_toDocument (c : ColumnMetadata) : c.toDocument.Plain := by
  unfold toDocument
  refine plain_record ?_
  simp only [List.forall_mem_append, List.forall_mem_singleton]
  exact ⟨⟨.text _, plain_optionalField .text _⟩, .text _⟩

theorem QueryMetadata.ofDocument_toDocument (r : Reading) (m : QueryMetadata) :
    ofDocument r m.toDocument = .ok m := by
  have hcolumns : readList (ColumnMetadata.ofDocument r)
      (.list (m.columns.map ColumnMetadata.toDocument)) = .ok m.columns :=
    readList_map fun c _ => ColumnMetadata.ofDocument_toDocument r c
  simp [ofDocument, toDocument, fields, hcolumns, bind, Except.bind, pure, Except.pure]

theorem QueryMetadata.plain_toDocument (m : QueryMetadata) : m.toDocument.Plain := by
  unfold toDocument
  refine plain_record ?_
  simp only [List.forall_mem_singleton]
  exact plain_list_map fun c _ => c.plain_toDocument

/-! ### Requests -/

theorem Request.ofDocument_toDocument (q : Request) : ofDocument q.toDocument = .ok q := by
  obtain ⟨correlationId, unitIndex, sql, returnGeneratedKeys, captureMetadata, fetchSize⟩ := q
  cases fetchSize <;>
    simp [ofDocument, toDocument, optionalField, fields, bind, Except.bind, pure, Except.pure]

theorem Request.plain_toDocument (q : Request) : q.toDocument.Plain := by
  unfold toDocument
  refine plain_record ?_
  rw [List.forall_mem_append]
  refine ⟨?_, plain_optionalField (fun n => plain_ofNat (by have := n.toNat_lt; omega)) _⟩
  simp only [List.forall_mem_cons, List.not_mem_nil, false_implies, implies_true, and_true]
  exact ⟨plain_ofNat q.correlationId.toNat_lt, plain_ofNat q.unitIndex.toNat_lt, .text _, .bool _,
    .bool _⟩

/-- A request nests no deeper than its table of fields. -/
theorem Request.depth_toDocument (q : Request) : q.toDocument.depth ≤ 1 := by
  unfold toDocument
  rw [depth_record_le_iff]
  cases q.fetchSize <;> simp [optionalField, ofNat, depth]

/-! ### Replies -/

namespace Reply

/-- All cells of the reply are canonical. -/
def Canonical : Reply → Prop
  | .rows _ body => ∀ row ∈ body, ∀ c ∈ row, c.canonical = true
  | .ok .. | .error _ => True

theorem readRows {body : List Row} (h : ∀ row ∈ body, ∀ c ∈ row, c.canonical = true) :
    readList (readList Cell.ofDocument) (rowsToDocument body) = .ok body :=
  readList_map fun row hrow =>
    readList_map fun c hc => Cell.ofDocument_toDocument c (h row hrow c hc)

theorem readMetadata (r : Reading) (m : Option QueryMetadata) :
    readOption (QueryMetadata.ofDocument r) (ofOption QueryMetadata.toDocument m) = .ok m := by
  cases m with
  | none => rfl
  | some m => exact readOption_eq_ok nofun (QueryMetadata.ofDocument_toDocument r m)

/-- The status of a reply is found at its front, and the fields of its kind are read behind it. -/
theorem ofFields_tail (r : Reading) {reply : Reply} (h : reply.Canonical) :
    ∃ entries kind, reply.toDocument = .table entries ∧
      takeStatus r entries = .ok (some kind, entries.tail) ∧
      ofFields r.setAside kind (.table entries.tail) = .ok reply := by
  cases reply with
  | rows metadata body =>
      refine ⟨_, 0, rfl, by rfl, ?_⟩
      simp [ofFields, rowsFields, readMetadata, readRows h, bind, Except.bind, pure, Except.pure]
  | ok affectedRows lastInsertId =>
      refine ⟨_, 1, rfl, by rfl, ?_⟩
      simp [ofFields, okFields, bind, Except.bind, pure, Except.pure]
  | error cause =>
      refine ⟨_, 2, rfl, by rfl, ?_⟩
      simp [ofFields, errorFields, DriverCause.ofDocument_toDocument, bind, Except.bind, pure,
        Except.pure]

theorem plain_toDocument (reply : Reply) : reply.toDocument.Plain := by
  cases reply with
  | rows metadata body =>
      refine plain_record ?_
      rw [List.forall_mem_cons, List.forall_mem_cons, List.forall_mem_singleton]
      refine ⟨.text _, ?_, ?_⟩
      · cases metadata with
        | none => exact .nil
        | some m => exact m.plain_toDocument
      · exact plain_list_map fun row _ => plain_list_map fun c _ => c.plain_toDocument
  | ok affectedRows lastInsertId =>
      refine plain_record ?_
      rw [List.forall_mem_cons, List.forall_mem_cons, List.forall_mem_singleton]
      exact ⟨.text _, plain_ofNat affectedRows.toNat_lt, plain_ofNat lastInsertId.toNat_lt⟩
  | error cause =>
      refine plain_record ?_
      rw [List.forall_mem_cons, List.forall_mem_singleton]
      exact ⟨.text _, cause.plain_toDocument⟩

/-- A canonical reply is read back when it can be set aside. -/
theorem ofDocument_toDocument {r : Reading} {reply : Reply} (h : reply.Canonical)
    (hdepth : reply.toDocument.depth ≤ r.levels) : ofDocument r reply.toDocument = .ok reply := by
  have hkeep := reply.plain_toDocument.keepable_iff.mpr hdepth
  obtain ⟨entries, kind, hentries, htake, hfields⟩ := ofFields_tail r h
  rw [hentries] at hkeep ⊢
  simp [ofDocument, hkeep, htake, hfields, bind, Except.bind]

end Reply

/-! ### Frames -/

namespace ReplyFrame

theorem plain_toDocument (f : ReplyFrame) : f.toDocument.Plain := by
  unfold toDocument
  refine plain_record ?_
  rw [List.forall_mem_cons, List.forall_mem_cons, List.forall_mem_singleton]
  exact ⟨plain_ofNat f.correlationId.toNat_lt, plain_ofNat f.unitIndex.toNat_lt,
    f.reply.plain_toDocument⟩

/-- The reply of a frame nests one level less than the frame. -/
theorem depth_reply {f : ReplyFrame} {r : Reading} (h : f.toDocument.depth ≤ r.levels) :
    f.reply.toDocument.depth ≤ r.inner.levels := by
  unfold Reading.inner
  unfold toDocument at h
  cases hlevels : r.levels with
  | zero =>
      rw [hlevels] at h
      exact absurd h (Nat.not_succ_le_zero _)
  | succ levels =>
      rw [hlevels, depth_record_le_iff] at h
      exact h ("reply", f.reply.toDocument) (by simp)

/-- **A canonical frame that nests no deeper than the reading allows is read back.** -/
theorem ofDocument_toDocument {r : Reading} {f : ReplyFrame} (h : f.reply.Canonical)
    (hdepth : f.toDocument.depth ≤ r.levels) : ofDocument r f.toDocument = .ok f := by
  have hreply := Reply.ofDocument_toDocument h (depth_reply hdepth)
  simp [ofDocument, toDocument, fields, hreply, bind, Except.bind, pure, Except.pure]

end ReplyFrame

end ScatterGather
