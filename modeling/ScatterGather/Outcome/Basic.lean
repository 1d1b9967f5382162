import ScatterGather.Cursor.Unit
import ScatterGather.Outcome.Metadata

/-!
# Outcomes of units

What a data source answers to one unit: rows, counts of an update, or an error. `classify` splits
errors from the outcomes that count as a success.
-/

namespace ScatterGather

/-- The counts of an update. -/
structure UpdateOutcome where
  affectedRows : UInt64
  lastInsertId : UInt64
deriving DecidableEq, Inhabited, Repr

namespace UpdateOutcome

/-- The written form of the counts. -/
def toDocument (u : UpdateOutcome) : Document :=
  .record [("affected_rows", .ofNat u.affectedRows.toNat),
    ("last_insert_id", .ofNat u.lastInsertId.toNat)]

/-- Counts that are being read. -/
structure Draft where
  affectedRows : Option UInt64 := none
  lastInsertId : Option UInt64 := none

/-- The fields of counts. -/
def fields : List (Field Draft) :=
  [.of "affected_rows" (·.affectedRows) (fun s v => { s with affectedRows := some v })
    Document.readUInt64,
   .of "last_insert_id" (·.lastInsertId) (fun s v => { s with lastInsertId := some v })
    Document.readUInt64]

/-- Reads counts. -/
def ofDocument (d : Document) : Except Fault UpdateOutcome := do
  let s ← Fields.read fields {} d
  return ⟨← Fields.need s.affectedRows, ← Fields.need s.lastInsertId⟩

instance : Written UpdateOutcome := ⟨toDocument, fun _ => ofDocument⟩

/-- The debug texts of the fields. -/
def debugFields (u : UpdateOutcome) : List (String × String) :=
  [("affected_rows", toString u.affectedRows.toNat),
   ("last_insert_id", toString u.lastInsertId.toNat)]

/-- The debug text of counts. -/
def debug (u : UpdateOutcome) : String := Text.debugRecord "UpdateOutcome" u.debugFields

end UpdateOutcome

/-- The rows of a unit, with their metadata when it was asked for. -/
structure QueryOutcome where
  metadata : Option QueryMetadata
  rows : UnitCursor
deriving Inhabited

/-- The debug text of a query outcome. -/
def QueryOutcome.debug (q : QueryOutcome) : String :=
  Text.debugRecord "QueryOutcome"
    [("metadata", Text.debugOption QueryMetadata.debug q.metadata),
     ("column_count", toString (Columns.columnCount q.rows))]

/-- What a data source answers to a unit. -/
inductive Outcome where
  | query (q : QueryOutcome)
  | update (u : UpdateOutcome)
  | error (cause : DriverCause)
deriving Inhabited

/-- A successful answer to a unit. -/
inductive Success where
  | query (q : QueryOutcome)
  | update (u : UpdateOutcome)
deriving Inhabited

namespace Outcome

/-- The name of an outcome's kind. -/
def kindName : Outcome → String
  | .query _ => "query"
  | .update _ => "update"
  | .error _ => "error"

/-- The outcome as a success, or as the failure of the data source it came from. -/
def classify (dataSource : String) : Outcome → Except ExecutionError Success
  | .query q => .ok (.query q)
  | .update u => .ok (.update u)
  | .error cause => .error (.driver dataSource cause)

/-- The debug text of an outcome. -/
def debug : Outcome → String
  | .query q => Text.debugVariant "Query" q.debug
  | .update u => Text.debugVariant "Update" u.debug
  | .error cause => Text.debugVariant "Error" cause.debug

end Outcome

namespace Success

/-- The success is a set of rows. -/
def isQuery : Success → Bool
  | .query _ => true
  | .update _ => false

/-- The rows of a success. -/
def query? : Success → Option QueryOutcome
  | .query q => some q
  | .update _ => none

/-- The counts of a success. -/
def update? : Success → Option UpdateOutcome
  | .query _ => none
  | .update u => some u

end Success

end ScatterGather
