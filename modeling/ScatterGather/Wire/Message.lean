import ScatterGather.Outcome.Basic

/-!
# Messages between the engine and the data sources

A `Request` carries one unit to a data source; a `ReplyFrame` carries the answer back under the
correlation id and the index of the unit. A `Reply` says in its field `status` which of three kinds
it is; the field may stand anywhere, so the other fields are set aside until it has been found.
-/

namespace ScatterGather

/-- The number that ties replies to the statement they answer. -/
abbrev CorrelationId := UInt64

/-- One unit on its way to a data source. -/
structure Request where
  correlationId : CorrelationId
  unitIndex : UInt64
  sql : String
  returnGeneratedKeys : Bool
  captureMetadata : Bool
  fetchSize : Option UInt32
deriving DecidableEq, Inhabited, Repr

namespace Request

/-- The written form of a request. -/
def toDocument (q : Request) : Document :=
  .record ([("correlation_id", .ofNat q.correlationId.toNat),
      ("unit_index", .ofNat q.unitIndex.toNat), ("sql", .text q.sql),
      ("return_generated_keys", .bool q.returnGeneratedKeys),
      ("capture_metadata", .bool q.captureMetadata)]
    ++ Document.optionalField "fetch_size" (fun n : UInt32 => .ofNat n.toNat) q.fetchSize)

/-- A request that is being read. -/
structure Draft where
  correlationId : Option UInt64 := none
  unitIndex : Option UInt64 := none
  sql : Option String := none
  returnGeneratedKeys : Option Bool := none
  captureMetadata : Option Bool := none
  fetchSize : Option (Option UInt32) := none

/-- The fields of a request. -/
def fields : List (Field Draft) :=
  [.of "correlation_id" (·.correlationId) (fun s v => { s with correlationId := some v })
    Document.readUInt64,
   .of "unit_index" (·.unitIndex) (fun s v => { s with unitIndex := some v }) Document.readUInt64,
   .of "sql" (·.sql) (fun s v => { s with sql := some v }) Document.readText,
   .of "return_generated_keys" (·.returnGeneratedKeys)
    (fun s v => { s with returnGeneratedKeys := some v }) Document.readBool,
   .of "capture_metadata" (·.captureMetadata) (fun s v => { s with captureMetadata := some v })
    Document.readBool,
   .of "fetch_size" (·.fetchSize) (fun s v => { s with fetchSize := some v })
    (Document.readOption Document.readUInt32)]

/-- Reads a request. -/
def ofDocument (d : Document) : Except Fault Request := do
  let s ← Fields.read fields {} d
  return ⟨← Fields.need s.correlationId, ← Fields.need s.unitIndex, ← Fields.need s.sql,
    s.returnGeneratedKeys.getD false, s.captureMetadata.getD false, s.fetchSize.getD none⟩

instance : Written Request := ⟨toDocument, fun _ => ofDocument⟩

end Request

/-- The answer of a data source to one unit. -/
inductive Reply where
  | rows (metadata : Option QueryMetadata) (rows : List Row)
  | ok (affectedRows lastInsertId : UInt64)
  | error (cause : DriverCause)
deriving Inhabited

namespace Reply

/-- The field that says which kind of reply it is. -/
def statusField : String := "status"

/-- The kinds of replies, in the order of their numbers. -/
def statusNames : List String := ["rows", "ok", "error"]

/-- The reply is an error. -/
def isError : Reply → Bool
  | .error _ => true
  | _ => false

/-- The outcome that a reply stands for. Rows have as many columns as their metadata, or as many as
the first of them without. -/
def toOutcome : Reply → Outcome
  | .rows metadata body =>
    let width := match metadata with
      | some m => m.columnCount
      | none => (body.head?.map List.length).getD 0
    .query ⟨metadata, .ofMemory (.ofRows width body)⟩
  | .ok affectedRows lastInsertId => .update ⟨affectedRows, lastInsertId⟩
  | .error cause => .error cause

/-- The written form of rows. -/
def rowsToDocument (body : List Row) : Document :=
  .list (body.map fun row => .list (row.map Cell.toDocument))

/-- The written form of a reply. -/
def toDocument : Reply → Document
  | .rows metadata body =>
    .record [(statusField, .text "rows"),
      ("metadata", Document.ofOption QueryMetadata.toDocument metadata),
      ("rows", rowsToDocument body)]
  | .ok affectedRows lastInsertId =>
    .record [(statusField, .text "ok"), ("affected_rows", .ofNat affectedRows.toNat),
      ("last_insert_id", .ofNat lastInsertId.toNat)]
  | .error cause => .record [(statusField, .text "error"), ("cause", cause.toDocument)]

/-! ### Reading the three kinds -/

/-- A reply of rows that is being read. -/
structure RowsDraft where
  metadata : Option (Option QueryMetadata) := none
  rows : Option (List Row) := none

/-- The fields of a reply of rows. -/
def rowsFields (r : Reading) : List (Field RowsDraft) :=
  [.of "metadata" (·.metadata) (fun s v => { s with metadata := some v })
    (Document.readOption (QueryMetadata.ofDocument r)),
   .of "rows" (·.rows) (fun s v => { s with rows := some v })
    (Document.readList (Document.readList Cell.ofDocument))]

/-- A reply of counts that is being read. -/
structure OkDraft where
  affectedRows : Option UInt64 := none
  lastInsertId : Option UInt64 := none

/-- The fields of a reply of counts. -/
def okFields : List (Field OkDraft) :=
  [.of "affected_rows" (·.affectedRows) (fun s v => { s with affectedRows := some v })
    Document.readUInt64,
   .of "last_insert_id" (·.lastInsertId) (fun s v => { s with lastInsertId := some v })
    Document.readUInt64]

/-- The fields of an error reply that is being read. -/
def errorFields : List (Field (Option DriverCause)) :=
  [.of "cause" id (fun _ v => some v) DriverCause.ofDocument]

/-- Reads the fields of a reply whose kind has been found. -/
def ofFields (r : Reading) (kind : Nat) (d : Document) : Except Fault Reply :=
  match kind with
  | 0 => do
    let s ← Fields.read (rowsFields r) {} d
    return .rows (s.metadata.getD none) (← Fields.need s.rows)
  | 1 => do
    let s ← Fields.read okFields {} d
    return .ok (← Fields.need s.affectedRows) (s.lastInsertId.getD 0)
  | _ => do
    let cause ← Fields.read errorFields none d
    return .error (← Fields.need cause)

/-- The key is that of the status. -/
def isStatusKey : Document → Bool
  | .text s => s == statusField
  | .bytes bs => Document.textOfBytes? bs == some statusField
  | _ => false

/-- The entries of a table without its status, and the status, which stands there once. -/
def takeStatus (r : Reading) :
    List (Document × Document) → Except Fault (Option Nat × List (Document × Document))
  | [] => .ok (none, [])
  | (key, value) :: rest => do
    let (found, others) ← takeStatus r rest
    if isStatusKey key then
      if found.isSome then throw .shape
      return (some (← value.readVariantName r statusNames), others)
    else return (found, (key, value) :: others)

/-- Reads a reply: a table with its status, or a list that begins with it. All of it is set aside
first. -/
def ofDocument (r : Reading) (d : Document) : Except Fault Reply := do
  if !d.keepable r.levels then throw .malformed
  match d with
  | .table entries =>
    let (kind, others) ← takeStatus r entries
    ofFields r.setAside (← Fields.need kind) (.table others)
  | .list (status :: others) =>
    let kind ← status.readVariantName r statusNames
    ofFields r.setAside kind (.list others)
  | d => throw d.fault

instance : Written Reply := ⟨toDocument, ofDocument⟩

/-! ### Debug texts -/

/-- The debug text of rows. -/
def debugRows (body : List Row) : String :=
  Text.debugList (body.map fun row => Text.debugList (row.map Cell.debug))

/-- The debug text of a reply. -/
def debug : Reply → String
  | .rows metadata body =>
    Text.debugRecord "Rows"
      [("metadata", Text.debugOption QueryMetadata.debug metadata), ("rows", debugRows body)]
  | .ok affectedRows lastInsertId =>
    Text.debugRecord "Ok" (UpdateOutcome.debugFields ⟨affectedRows, lastInsertId⟩)
  | .error cause => Text.debugRecord "Error" [("cause", cause.debug)]

end Reply

/-- A reply with the statement and the unit it answers. -/
structure ReplyFrame where
  correlationId : CorrelationId
  unitIndex : UInt64
  reply : Reply
deriving Inhabited

namespace ReplyFrame

/-- The written form of a frame. -/
def toDocument (f : ReplyFrame) : Document :=
  .record [("correlation_id", .ofNat f.correlationId.toNat),
    ("unit_index", .ofNat f.unitIndex.toNat), ("reply", f.reply.toDocument)]

/-- A frame that is being read. -/
structure Draft where
  correlationId : Option UInt64 := none
  unitIndex : Option UInt64 := none
  reply : Option Reply := none

/-- The fields of a frame. -/
def fields (r : Reading) : List (Field Draft) :=
  [.of "correlation_id" (·.correlationId) (fun s v => { s with correlationId := some v })
    Document.readUInt64,
   .of "unit_index" (·.unitIndex) (fun s v => { s with unitIndex := some v }) Document.readUInt64,
   .of "reply" (·.reply) (fun s v => { s with reply := some v }) (Reply.ofDocument r.inner)]

/-- Reads a frame. -/
def ofDocument (r : Reading) (d : Document) : Except Fault ReplyFrame := do
  let s ← Fields.read (fields r) {} d
  return ⟨← Fields.need s.correlationId, ← Fields.need s.unitIndex, ← Fields.need s.reply⟩

instance : Written ReplyFrame := ⟨toDocument, ofDocument⟩

end ReplyFrame

end ScatterGather
