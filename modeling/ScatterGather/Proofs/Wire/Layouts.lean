import ScatterGather.Proofs.Document.Layout
import ScatterGather.Proofs.Wire.Messages

/-!
# The layouts of the messages

Every record of the protocol is put together from its parts, and the parts give it a layout: that
of a request (`Request.layout`), that of a frame with its reply (`ReplyFrame.layout`), and those of
what a reply is made of. A value is read from the forms of its layout that have no fault, and from
no other (`Request.reads`, `ReplyFrame.reads`); what is written of it is one of them
(`Request.form_toDocument`, `ReplyFrame.form_toDocument`).

A reply needs care of its own. Its status may stand anywhere, so all of it is set aside first; the
entry of the status is then taken out from between the others (`Reply.toOption_takeStatus`), and
what the others tell of the fields of that kind stays what it was (`Reply.told_others`).
-/

namespace ScatterGather

open Layout Document

variable {levels : Nat}

@[simp] theorem Fields.toOption_need {α : Type} (o : Option α) : (need o).toOption = o := by
  cases o <;> rfl

/-- A field that is left out when its value is the default has its value either way. -/
theorem getD_of_kept {α : Type} [DecidableEq α] {o : Option α} {default value : α}
    (h : o = some value ∨ o = none ∧ Leaving.ofDefault default value = .keeps) :
    o.getD default = value := by
  rcases h with rfl | ⟨rfl, hkeeps⟩
  · rfl
  · unfold Leaving.ofDefault at hkeeps
    split at hkeeps
    next heq => exact heq.symm
    · cases hkeeps

@[simp] theorem Leaving.ofDefault_ne_breaks {α : Type} [DecidableEq α] (default value : α) :
    ofDefault default value ≠ .breaks := by
  unfold ofDefault
  split <;> nofun

/-- An optional value is plain when every value is. -/
theorem Document.plain_ofOption {α : Type} {write : α → Document} (h : ∀ a, (write a).Plain)
    (o : Option α) : (ofOption write o).Plain := by
  cases o with
  | none => exact .nil
  | some a => exact h a

theorem Document.plain_ofUInt16 (n : UInt16) : (ofNat n.toNat).Plain :=
  plain_ofNat (Nat.lt_trans n.toNat_lt (by decide))

theorem Document.plain_ofUInt32 (n : UInt32) : (ofNat n.toNat).Plain :=
  plain_ofNat (Nat.lt_trans n.toNat_lt (by decide))

theorem Document.plain_ofUInt64 (n : UInt64) : (ofNat n.toNat).Plain := plain_ofNat n.toNat_lt

/-! ### Requests -/

namespace Request

/-- The parts of a request. -/
def parts (q : Request) : List (Part Draft) :=
  [⟨⟨UInt64, "correlation_id", (·.correlationId), fun s v => { s with correlationId := some v },
      readUInt64⟩,
      q.correlationId, .breaks, .leaf (ofNat q.correlationId.toNat) (plain_ofUInt64 _)⟩,
   ⟨⟨UInt64, "unit_index", (·.unitIndex), fun s v => { s with unitIndex := some v }, readUInt64⟩,
      q.unitIndex, .breaks, .leaf (ofNat q.unitIndex.toNat) (plain_ofUInt64 _)⟩,
   ⟨⟨String, "sql", (·.sql), fun s v => { s with sql := some v }, readText⟩,
      q.sql, .breaks, .leaf (.text q.sql) (.text _)⟩,
   ⟨⟨Bool, "return_generated_keys", (·.returnGeneratedKeys),
      fun s v => { s with returnGeneratedKeys := some v }, readBool⟩,
      q.returnGeneratedKeys, .ofDefault false q.returnGeneratedKeys,
      .leaf (.bool q.returnGeneratedKeys) (.bool _)⟩,
   ⟨⟨Bool, "capture_metadata", (·.captureMetadata),
      fun s v => { s with captureMetadata := some v }, readBool⟩,
      q.captureMetadata, .ofDefault false q.captureMetadata,
      .leaf (.bool q.captureMetadata) (.bool _)⟩,
   ⟨⟨Option UInt32, "fetch_size", (·.fetchSize), fun s v => { s with fetchSize := some v },
      readOption readUInt32⟩,
      q.fetchSize, .ofDefault none q.fetchSize,
      .leaf (ofOption (fun n : UInt32 => ofNat n.toNat) q.fetchSize)
        (plain_ofOption plain_ofUInt32 _)⟩]

/-- What is written of a request, field by field. -/
def layout (q : Request) : Layout := .record (q.parts.map Part.laid)

/-- The request of a draft. -/
def finish (s : Draft) : Except Fault Request := do
  return ⟨← Fields.need s.correlationId, ← Fields.need s.unitIndex, ← Fields.need s.sql,
    s.returnGeneratedKeys.getD false, s.captureMetadata.getD false, s.fetchSize.getD none⟩

theorem independent_parts (q : Request) : Slot.Independent (q.parts.map Part.toSlot) := by
  constructor <;> simp [parts]

theorem finishes (q : Request) : Finishes q.parts finish q where
  complete s h := by
    simp only [parts, List.forall_mem_cons] at h
    obtain ⟨hid, hindex, hsql, hkeys, hmetadata, hsize, -⟩ := h
    simp only [reduceCtorEq, and_false, or_false] at hid hindex hsql
    simp [finish, hid, hindex, hsql, getD_of_kept hkeys, getD_of_kept hmetadata,
      getD_of_kept hsize]
  missing s := by
    simp only [parts, List.forall_mem_cons]
    simp +contextual [finish]

/-- **A request is read from its forms.** -/
theorem reads (q : Request) : Reads levels ofDocument q.layout q := by
  refine reads_record q.independent_parts (by simp [parts]) ?_ q.finishes
  simp only [parts, List.forall_mem_cons]
  refine ⟨reads_leaf _ (readUInt64_ofNat _), reads_leaf _ (readUInt64_ofNat _),
    reads_leaf _ rfl, reads_leaf _ rfl, reads_leaf _ rfl, reads_leaf _ ?_, List.forall_mem_nil _⟩
  cases q.fetchSize <;> simp [ofOption]

end Request

/-! ### Causes -/

namespace DriverCause

/-- The parts of a cause. -/
def parts (c : DriverCause) : List (Part Draft) :=
  [⟨⟨Option UInt16, "code", (·.code), fun s v => { s with code := some v },
      readOption readUInt16⟩,
      c.code, .ofDefault none c.code,
      .leaf (ofOption (fun n : UInt16 => ofNat n.toNat) c.code)
        (plain_ofOption plain_ofUInt16 _)⟩,
   ⟨⟨Option String, "sql_state", (·.sqlState), fun s v => { s with sqlState := some v },
      readOption readText⟩,
      c.sqlState, .ofDefault none c.sqlState,
      .leaf (ofOption .text c.sqlState) (plain_ofOption .text _)⟩,
   ⟨⟨String, "message", (·.message), fun s v => { s with message := some v }, readText⟩,
      c.message, .breaks, .leaf (.text c.message) (.text _)⟩]

/-- What is written of a cause, field by field. -/
def layout (c : DriverCause) : Layout := .record (c.parts.map Part.laid)

/-- The cause of a draft. -/
def finish (s : Draft) : Except Fault DriverCause := do
  return ⟨s.code.getD none, s.sqlState.getD none, ← Fields.need s.message⟩

theorem independent_parts (c : DriverCause) : Slot.Independent (c.parts.map Part.toSlot) := by
  constructor <;> simp [parts]

theorem finishes (c : DriverCause) : Finishes c.parts finish c where
  complete s h := by
    simp only [parts, List.forall_mem_cons] at h
    obtain ⟨hcode, hstate, hmessage, -⟩ := h
    simp only [reduceCtorEq, and_false, or_false] at hmessage
    simp [finish, hmessage, getD_of_kept hcode, getD_of_kept hstate]
  missing s := by
    simp only [parts, List.forall_mem_cons]
    simp +contextual [finish]

/-- A cause is read from its forms. -/
theorem reads (c : DriverCause) : Reads levels ofDocument c.layout c := by
  refine reads_record c.independent_parts (by simp [parts]) ?_ c.finishes
  simp only [parts, List.forall_mem_cons]
  refine ⟨reads_leaf _ ?_, reads_leaf _ ?_, reads_leaf _ rfl, List.forall_mem_nil _⟩
  · cases c.code <;> simp [ofOption]
  · cases c.sqlState <;> simp [ofOption]

end DriverCause

/-! ### Metadata -/

namespace ColumnMetadata

/-- The parts of a column. -/
def parts (r : Reading) (c : ColumnMetadata) : List (Part Draft) :=
  [⟨⟨String, "name", (·.name), fun s v => { s with name := some v }, readText⟩,
      c.name, .breaks, .leaf (.text c.name) (.text _)⟩,
   ⟨⟨Option String, "table", (·.table), fun s v => { s with table := some v },
      readOption readText⟩,
      c.table, .ofDefault none c.table, .leaf (ofOption .text c.table) (plain_ofOption .text _)⟩,
   ⟨⟨ColumnType, "column_type", (·.columnType), fun s v => { s with columnType := some v },
      Named.ofDocument r⟩,
      c.columnType, .breaks, .leaf (Named.toDocument c.columnType) (.text _)⟩]

/-- What is written of a column, field by field. -/
def layout (c : ColumnMetadata) : Layout := .record ((c.parts {}).map Part.laid)

/-- The column of a draft. -/
def finish (s : Draft) : Except Fault ColumnMetadata := do
  return ⟨← Fields.need s.name, s.table.getD none, ← Fields.need s.columnType⟩

theorem independent_parts (r : Reading) (c : ColumnMetadata) :
    Slot.Independent ((c.parts r).map Part.toSlot) := by
  constructor <;> simp [parts]

theorem finishes (r : Reading) (c : ColumnMetadata) : Finishes (c.parts r) finish c where
  complete s h := by
    simp only [parts, List.forall_mem_cons] at h
    obtain ⟨hname, htable, htype, -⟩ := h
    simp only [reduceCtorEq, and_false, or_false] at hname htype
    simp [finish, hname, htype, getD_of_kept htable]
  missing s := by
    simp only [parts, List.forall_mem_cons]
    simp +contextual [finish]

theorem layout_eq (r : Reading) (c : ColumnMetadata) :
    c.layout = .record ((c.parts r).map Part.laid) := by
  simp [layout, parts, Part.laid]

/-- A column is read from its forms. -/
theorem reads (r : Reading) (c : ColumnMetadata) : Reads levels (ofDocument r) c.layout c := by
  rw [c.layout_eq r]
  refine reads_record (c.independent_parts r) (by simp [parts]) ?_ (c.finishes r)
  simp only [parts, List.forall_mem_cons]
  refine ⟨reads_leaf _ rfl, reads_leaf _ ?_, reads_leaf _ (ColumnType.ofDocument_toDocument r _),
    List.forall_mem_nil _⟩
  cases c.table <;> simp [ofOption]

end ColumnMetadata

namespace QueryMetadata

/-- The parts of metadata. -/
def parts (r : Reading) (m : QueryMetadata) : List (Part (Option (List ColumnMetadata))) :=
  [⟨⟨List ColumnMetadata, "columns", id, fun _ v => some v,
      readList (ColumnMetadata.ofDocument r)⟩,
      m.columns, .breaks, .list (m.columns.map ColumnMetadata.layout)⟩]

/-- What is written of metadata, column by column. -/
def layout (m : QueryMetadata) : Layout := .record ((m.parts {}).map Part.laid)

/-- What is written where there may be no metadata. -/
def optionLayout : Option QueryMetadata → Layout
  | some m => m.layout
  | none => .leaf .nil .nil

/-- The metadata of a draft. -/
def finish (s : Option (List ColumnMetadata)) : Except Fault QueryMetadata := do
  return ⟨← Fields.need s⟩

theorem independent_parts (r : Reading) (m : QueryMetadata) :
    Slot.Independent ((m.parts r).map Part.toSlot) := by
  constructor <;> simp [parts]

theorem finishes (r : Reading) (m : QueryMetadata) : Finishes (m.parts r) finish m where
  complete s h := by
    simp only [parts, List.forall_mem_cons, reduceCtorEq, and_false, or_false, id_eq] at h
    simp [finish, h.1]
  missing s := by
    simp only [parts, List.forall_mem_cons]
    simp +contextual [finish]

theorem layout_eq (r : Reading) (m : QueryMetadata) :
    m.layout = .record ((m.parts r).map Part.laid) := by
  simp [layout, parts, Part.laid]

/-- Metadata is read from its forms. -/
theorem reads (r : Reading) (m : QueryMetadata) : Reads levels (ofDocument r) m.layout m := by
  rw [m.layout_eq r]
  refine reads_record (m.independent_parts r) (by simp [parts]) ?_ (m.finishes r)
  simp only [parts, List.forall_mem_cons]
  exact ⟨reads_list fun c _ => c.reads r, List.forall_mem_nil _⟩

/-- Metadata that may be absent is read from its forms. -/
theorem reads_optionLayout (r : Reading) (m : Option QueryMetadata) :
    Reads levels (readOption (ofDocument r)) (optionLayout m) m := by
  cases m with
  | none => exact reads_leaf _ rfl
  | some m =>
      refine reads_option (m.reads r) ?_
      rintro faulty ⟨⟩

end QueryMetadata

/-! ### Replies -/

namespace Reply

/-- The number of the kind of a reply. -/
def kind : Reply → Nat
  | .rows .. => 0
  | .ok .. => 1
  | .error _ => 2

/-- The name of the kind of a reply. -/
def status : Reply → String
  | .rows .. => "rows"
  | .ok .. => "ok"
  | .error _ => "error"

theorem readVariantName_status (r : Reading) (reply : Reply) :
    readVariantName r statusNames (.text reply.status) = .ok reply.kind := by
  cases reply <;> rfl

theorem plain_rowsToDocument (body : List Row) : (rowsToDocument body).Plain :=
  plain_list_map fun _ _ => plain_list_map fun c _ => c.plain_toDocument

/-- The parts of a reply of rows. -/
def rowsParts (r : Reading) (metadata : Option QueryMetadata) (body : List Row) :
    List (Part RowsDraft) :=
  [⟨⟨Option QueryMetadata, "metadata", (·.metadata), fun s v => { s with metadata := some v },
      readOption (QueryMetadata.ofDocument r)⟩,
      metadata, .ofDefault none metadata, QueryMetadata.optionLayout metadata⟩,
   ⟨⟨List Row, "rows", (·.rows), fun s v => { s with rows := some v },
      readList (readList Cell.ofDocument)⟩,
      body, .breaks, .leaf (rowsToDocument body) (plain_rowsToDocument body)⟩]

/-- The parts of a reply of counts. -/
def okParts (affectedRows lastInsertId : UInt64) : List (Part OkDraft) :=
  [⟨⟨UInt64, "affected_rows", (·.affectedRows), fun s v => { s with affectedRows := some v },
      readUInt64⟩,
      affectedRows, .breaks, .leaf (ofNat affectedRows.toNat) (plain_ofUInt64 _)⟩,
   ⟨⟨UInt64, "last_insert_id", (·.lastInsertId), fun s v => { s with lastInsertId := some v },
      readUInt64⟩,
      lastInsertId, .ofDefault 0 lastInsertId,
      .leaf (ofNat lastInsertId.toNat) (plain_ofUInt64 _)⟩]

/-- The parts of an error reply. -/
def errorParts (cause : DriverCause) : List (Part (Option DriverCause)) :=
  [⟨⟨DriverCause, "cause", id, fun _ v => some v, DriverCause.ofDocument⟩,
      cause, .breaks, cause.layout⟩]

/-- The fields of a reply beside its status. -/
def laid : Reply → List (String × Leaving × Layout)
  | .rows metadata body => (rowsParts {} metadata body).map Part.laid
  | .ok affectedRows lastInsertId => (okParts affectedRows lastInsertId).map Part.laid
  | .error cause => (errorParts cause).map Part.laid

/-- What is written of a reply, field by field. -/
def layout (reply : Reply) : Layout :=
  .record ((statusField, .breaks, .leaf (.text reply.status) (.text _)) :: reply.laid)

variable {r : Reading} {faulty : Bool} {entries : List (String × Document)}

theorem laid_rows (r : Reading) (metadata : Option QueryMetadata) (body : List Row) :
    (rows metadata body).laid = (rowsParts r metadata body).map Part.laid := by
  simp [laid, rowsParts, Part.laid]

/-- The reply of a draft of rows. -/
def finishRows (s : RowsDraft) : Except Fault Reply := do
  return .rows (s.metadata.getD none) (← Fields.need s.rows)

/-- The reply of a draft of counts. -/
def finishOk (s : OkDraft) : Except Fault Reply := do
  return .ok (← Fields.need s.affectedRows) (s.lastInsertId.getD 0)

/-- The reply of a cause that has been read. -/
def finishError (s : Option DriverCause) : Except Fault Reply := do
  return .error (← Fields.need s)

theorem finishes_rows (r : Reading) (metadata : Option QueryMetadata) (body : List Row) :
    Finishes (rowsParts r metadata body) finishRows (.rows metadata body) where
  complete s h := by
    simp only [rowsParts, List.forall_mem_cons] at h
    obtain ⟨hmetadata, hrows, -⟩ := h
    simp only [reduceCtorEq, and_false, or_false] at hrows
    simp [finishRows, hrows, getD_of_kept hmetadata]
  missing s := by
    simp only [rowsParts, List.forall_mem_cons]
    simp +contextual [finishRows]

theorem finishes_ok (affectedRows lastInsertId : UInt64) :
    Finishes (okParts affectedRows lastInsertId) finishOk (.ok affectedRows lastInsertId) where
  complete s h := by
    simp only [okParts, List.forall_mem_cons] at h
    obtain ⟨hrows, hid, -⟩ := h
    simp only [reduceCtorEq, and_false, or_false] at hrows
    simp [finishOk, hrows, getD_of_kept hid]
  missing s := by
    simp only [okParts, List.forall_mem_cons]
    simp +contextual [finishOk]

theorem finishes_error (cause : DriverCause) :
    Finishes (errorParts cause) finishError (.error cause) where
  complete s h := by
    simp only [errorParts, List.forall_mem_cons, reduceCtorEq, and_false, or_false, id_eq] at h
    simp [finishError, h.1]
  missing s := by
    simp only [errorParts, List.forall_mem_cons]
    simp +contextual [finishError]

/-- The fields of a reply are read from entries that tell of them. -/
theorem toOption_ofFields (r : Reading) {reply : Reply} (h : reply.Canonical)
    (hdepth : ∀ e ∈ entries, e.2.depth ≤ levels) (htold : Told entries faulty reply.laid)
    (hplain : ∀ e ∈ entries, e.2.Plain) :
    (ofFields r reply.kind (.record entries)).toOption = if faulty then none else some reply := by
  cases reply with
  | rows metadata body =>
      rw [laid_rows r] at htold
      refine toOption_read_of_told ?_ (by simp [rowsParts]) ?_ hdepth htold
        (finishes_rows r metadata body) hplain
      · constructor <;> simp [rowsParts]
      · simp only [rowsParts, List.forall_mem_cons]
        exact ⟨QueryMetadata.reads_optionLayout r metadata, reads_leaf _ (readRows h),
          List.forall_mem_nil _⟩
  | ok affectedRows lastInsertId =>
      refine toOption_read_of_told ?_ (by simp [okParts]) ?_ hdepth htold
        (finishes_ok affectedRows lastInsertId) hplain
      · constructor <;> simp [okParts]
      · simp only [okParts, List.forall_mem_cons]
        exact ⟨reads_leaf _ (readUInt64_ofNat _), reads_leaf _ (readUInt64_ofNat _),
          List.forall_mem_nil _⟩
  | error cause =>
      refine toOption_read_of_told ?_ (by simp [errorParts]) ?_ hdepth htold
        (finishes_error cause) hplain
      · constructor <;> simp [errorParts]
      · simp only [errorParts, List.forall_mem_cons]
        exact ⟨cause.reads, List.forall_mem_nil _⟩

/-- The entries of a table beside its status. -/
def others (entries : List (String × Document)) : List (String × Document) :=
  entries.filter (·.1 != statusField)

/-- The status is taken out from between the other entries, if it stands there no more than
once. -/
theorem toOption_takeStatus (r : Reading) (entries : List (String × Document)) :
    (takeStatus r (entries.map fun e => (.text e.1, e.2))).toOption =
      match entries.filter (·.1 == statusField) with
      | [] => some (none, (others entries).map fun e => (.text e.1, e.2))
      | [e] => (e.2.readVariantName r statusNames).toOption.map fun kind =>
          (some kind, (others entries).map fun e => (.text e.1, e.2))
      | _ => none := by
  induction entries with
  | nil => rfl
  | cons e entries ih =>
      obtain ⟨k, d⟩ := e
      rw [List.map_cons, takeStatus, toOption_bind, ih]
      by_cases hk : k = statusField
      · subst hk
        have hkey : isStatusKey (.text statusField) = true := rfl
        have hothers : others ((statusField, d) :: entries) = others entries := by simp [others]
        rw [List.filter_cons_of_pos (by simp), hothers]
        cases entries.filter (·.1 == statusField) with
        | nil => simp [hkey]
        | cons e es =>
            cases es with
            | nil =>
                dsimp only
                cases (e.2.readVariantName r statusNames).toOption <;> simp [hkey]
            | cons e' es => rfl
      · have hkey : isStatusKey (.text k) = false := beq_false_of_ne hk
        have hothers : others ((k, d) :: entries) = (k, d) :: others entries := by
          simp [others, hk]
        rw [List.filter_cons_of_neg (by simpa using hk), hothers]
        cases entries.filter (·.1 == statusField) with
        | nil => simp [hkey]
        | cons e es =>
            cases es with
            | nil =>
                dsimp only
                cases (e.2.readVariantName r statusNames).toOption <;> simp [hkey]
            | cons e' es => rfl

/-- The status stands among its entries as often as its name among theirs. -/
theorem length_filter_status (entries : List (String × Document)) :
    (entries.filter (·.1 == statusField)).length = (entries.map Prod.fst).count statusField := by
  rw [List.count, List.countP_map, List.countP_eq_length_filter]
  rfl

/-- A reply that can be set aside is read by its status and by the entries beside it. -/
theorem toOption_ofDocument (hkeep : (Document.record entries).keepable r.levels = true) :
    (ofDocument r (.record entries)).toOption =
      match entries.filter (·.1 == statusField) with
      | [e] => (e.2.readVariantName r statusNames).toOption.bind fun kind =>
          (ofFields r.setAside kind (.record (others entries))).toOption
      | _ => none := by
  have hdocument : ofDocument r (.record entries) =
      takeStatus r (entries.map fun e => (.text e.1, e.2)) >>= fun found =>
        Fields.need found.1 >>= fun kind => ofFields r.setAside kind (.table found.2) := by
    unfold ofDocument
    rw [hkeep]
    rfl
  simp only [hdocument, toOption_bind, toOption_takeStatus, Fields.toOption_need]
  cases entries.filter (·.1 == statusField) with
  | nil => rfl
  | cons e es =>
      cases es with
      | nil =>
          dsimp only
          cases (e.2.readVariantName r statusNames).toOption <;> rfl
      | cons e' es => rfl

/-- What is told of the fields beside the status is told by the entries beside it. -/
theorem told_others {fields : List (String × Leaving × Layout)} (h : Told entries faulty fields)
    (hne : ∀ x ∈ fields, x.1 ≠ statusField) : Told (others entries) faulty fields := by
  refine h.of_count ?_ ?_
  · intro x hx d hd
    exact List.mem_filter.mpr ⟨hd, bne_iff_ne.mpr (hne x hx)⟩
  · intro x hx
    have hmap : (others entries).map Prod.fst =
        (entries.map Prod.fst).filter (· != statusField) := by
      rw [others, List.filter_map]
      rfl
    rw [hmap]
    exact List.count_filter (bne_iff_ne.mpr (hne x hx))

/-- No field of a reply goes by the name of the status. -/
theorem laid_ne_status (reply : Reply) : ∀ x ∈ reply.laid, x.1 ≠ statusField := by
  cases reply <;> simp [laid, rowsParts, okParts, errorParts, Part.laid, statusField]

theorem nodup_laid (reply : Reply) : (reply.laid.map Prod.fst).Nodup := by
  cases reply <;> simp [laid, rowsParts, okParts, errorParts, Part.laid]

/-- **A reply is read from its forms** when they can be set aside. -/
theorem reads {reply : Reply} (h : reply.Canonical) :
    Reads r.levels (ofDocument r) reply.layout reply := by
  intro faulty d hform hdepth
  have hnodup : (statusField :: reply.laid.map Prod.fst).Nodup := by
    refine List.nodup_cons.mpr ⟨?_, reply.nodup_laid⟩
    rw [List.mem_map]
    rintro ⟨x, hx, hname⟩
    exact reply.laid_ne_status x hx hname
  obtain ⟨entries, rfl, htold⟩ := hform.told hnodup
  rw [toOption_ofDocument (hform.plain.keepable_iff.mpr hdepth)]
  obtain ⟨f, hstatus, hf⟩ := htold.each _ List.mem_cons_self
  have hlength := length_filter_status entries
  cases hstatus with
  | @kept d honce hd hleaf =>
      -- There is one status, and it is the one that was written.
      obtain ⟨e, he⟩ := List.length_eq_one_iff.mp (hlength.trans honce)
      have hmem : (statusField, d) ∈ entries.filter (·.1 == statusField) :=
        List.mem_filter.mpr ⟨hd, by simp⟩
      rw [he, List.mem_singleton] at hmem
      subst hmem
      have hsound : ¬ Tells entries true
          (statusField, .breaks, .leaf (.text reply.status) (.text _)) := by
        intro htells
        cases htells with
        | kept _ _ hleaf => exact Bool.noConfusion hleaf.eq_of_leaf.1
        | left hno => exact hno (List.mem_map_of_mem hd)
        | twice htwice => exact absurd htwice (Nat.not_lt.mpr (Nat.le_of_eq honce))
      obtain ⟨-, rfl⟩ := hleaf.eq_of_leaf
      rw [he]
      simp only [readVariantName_status, toOption_ok, Option.bind_some]
      exact toOption_ofFields r.setAside h
        (fun e he => depth_le_of_record hdepth e (List.mem_of_mem_filter he))
        (told_others (htold.tail hsound) reply.laid_ne_status)
        fun e he => hform.plain.of_record e (List.mem_of_mem_filter he)
  | left hno _ hfaulty =>
      rw [hf hfaulty]
      have hnil : entries.filter (·.1 == statusField) = [] :=
        List.eq_nil_of_length_eq_zero (hlength.trans (List.count_eq_zero_of_not_mem hno))
      rw [hnil]
      rfl
  | twice htwice hfaulty =>
      rw [hf hfaulty]
      cases hfilter : entries.filter (·.1 == statusField) with
      | nil => rfl
      | cons e es =>
          cases es with
          | nil =>
              rw [hfilter] at hlength
              exact absurd (lt_of_lt_of_eq htwice hlength.symm) (Nat.lt_irrefl 1)
          | cons e' es => rfl

end Reply

/-! ### Frames -/

namespace ReplyFrame

/-- The parts of a frame. -/
def parts (r : Reading) (f : ReplyFrame) : List (Part Draft) :=
  [⟨⟨UInt64, "correlation_id", (·.correlationId), fun s v => { s with correlationId := some v },
      readUInt64⟩,
      f.correlationId, .breaks, .leaf (ofNat f.correlationId.toNat) (plain_ofUInt64 _)⟩,
   ⟨⟨UInt64, "unit_index", (·.unitIndex), fun s v => { s with unitIndex := some v }, readUInt64⟩,
      f.unitIndex, .breaks, .leaf (ofNat f.unitIndex.toNat) (plain_ofUInt64 _)⟩,
   ⟨⟨Reply, "reply", (·.reply), fun s v => { s with reply := some v },
      Reply.ofDocument r.inner⟩,
      f.reply, .breaks, f.reply.layout⟩]

/-- What is written of a frame, field by field. -/
def layout (f : ReplyFrame) : Layout := .record ((f.parts {}).map Part.laid)

/-- The frame of a draft. -/
def finish (s : Draft) : Except Fault ReplyFrame := do
  return ⟨← Fields.need s.correlationId, ← Fields.need s.unitIndex, ← Fields.need s.reply⟩

theorem independent_parts (r : Reading) (f : ReplyFrame) :
    Slot.Independent ((f.parts r).map Part.toSlot) := by
  constructor <;> simp [parts]

theorem finishes (r : Reading) (f : ReplyFrame) : Finishes (f.parts r) finish f where
  complete s h := by
    simp only [parts, List.forall_mem_cons, reduceCtorEq, and_false, or_false] at h
    obtain ⟨hid, hindex, hreply, -⟩ := h
    simp [finish, hid, hindex, hreply]
  missing s := by
    simp only [parts, List.forall_mem_cons]
    simp +contextual [finish]

theorem layout_eq (r : Reading) (f : ReplyFrame) :
    f.layout = .record ((f.parts r).map Part.laid) := by
  simp [layout, parts, Part.laid]

/-- **A frame is read from its forms** when its reply can be set aside. -/
theorem reads (r : Reading) {f : ReplyFrame} (h : f.reply.Canonical) :
    Reads r.levels (ofDocument r) f.layout f := by
  rw [f.layout_eq r]
  refine reads_record (f.independent_parts r) (by simp [parts]) ?_ (f.finishes r)
  simp only [parts, List.forall_mem_cons]
  exact ⟨reads_leaf _ (readUInt64_ofNat _), reads_leaf _ (readUInt64_ofNat _),
    Reply.reads (r := r.inner) h, List.forall_mem_nil _⟩

end ReplyFrame

/-! ### What is written is a form -/

theorem Request.form_toDocument (q : Request) : Form false q.layout q.toDocument := by
  unfold toDocument
  rw [← List.append_nil (optionalField _ _ _)]
  exact form_record (fieldForms_keep (.leaf _) (fieldForms_keep (.leaf _)
    (fieldForms_keep (.leaf _) (fieldForms_keep (.leaf _) (fieldForms_keep (.leaf _)
      (fieldForms_optional .nil))))))

theorem DriverCause.form_toDocument (c : DriverCause) : Form false c.layout c.toDocument := by
  unfold toDocument
  rw [List.append_assoc]
  exact form_record (fieldForms_optional (fieldForms_optional (fieldForms_keep (.leaf _) .nil)))

theorem ColumnMetadata.form_toDocument (c : ColumnMetadata) :
    Form false c.layout c.toDocument := by
  unfold toDocument
  rw [List.append_assoc]
  exact form_record (fieldForms_keep (.leaf _) (fieldForms_optional
    (fieldForms_keep (.leaf _) .nil)))

theorem QueryMetadata.form_toDocument (m : QueryMetadata) : Form false m.layout m.toDocument :=
  form_record (fieldForms_keep (.list (forms_map fun c _ => c.form_toDocument)) .nil)

theorem QueryMetadata.form_ofOption (m : Option QueryMetadata) :
    Form false (optionLayout m) (ofOption toDocument m) := by
  cases m with
  | none => exact .leaf _
  | some m => exact m.form_toDocument

theorem Reply.form_toDocument (reply : Reply) : Form false reply.layout reply.toDocument := by
  cases reply with
  | rows metadata body =>
      exact form_record (fieldForms_keep (.leaf _) (fieldForms_keep
        (QueryMetadata.form_ofOption metadata) (fieldForms_keep (.leaf _) .nil)))
  | ok affectedRows lastInsertId =>
      exact form_record (fieldForms_keep (.leaf _) (fieldForms_keep (.leaf _)
        (fieldForms_keep (.leaf _) .nil)))
  | error cause =>
      exact form_record (fieldForms_keep (.leaf _) (fieldForms_keep cause.form_toDocument .nil))

theorem ReplyFrame.form_toDocument (f : ReplyFrame) : Form false f.layout f.toDocument :=
  form_record (fieldForms_keep (.leaf _) (fieldForms_keep (.leaf _)
    (fieldForms_keep f.reply.form_toDocument .nil)))

end ScatterGather
