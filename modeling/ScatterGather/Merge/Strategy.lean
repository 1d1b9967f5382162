import ScatterGather.Cursor.Concatenation
import ScatterGather.Merge.LogicalResult
import ScatterGather.Response
import ScatterGather.Route.Statement

/-!
# Merging the units of a statement

The cursors of a row response become one cursor by a `MergeStrategy`: one after another, in reverse
order out of memory, or not at all. The counts of an update response are added up for statements
that change or read rows; for the others every unit does the same, so the first one speaks for all.
-/

namespace ScatterGather

/-- A cursor over the merged rows. -/
inductive MergedCursor where
  | chain (cursors : Concatenation UnitCursor)
  | memory (rows : MemoryCursor)
deriving Inhabited

namespace MergedCursor

/-- Moves to the next row. -/
def next : MergedCursor → Except ExecutionError Bool × MergedCursor
  | .chain s => ((RowCursor.next s).1, .chain (RowCursor.next s).2)
  | .memory c => ((RowCursor.next c).1, .memory (RowCursor.next c).2)

/-- The cell of a column of the current row. -/
def value : MergedCursor → Nat → Except ExecutionError Cell
  | .chain s => RowCursor.value s
  | .memory c => RowCursor.value c

/-- A bound on the rows still to come. -/
def remaining : MergedCursor → Nat
  | .chain s => FiniteCursor.remaining s
  | .memory c => FiniteCursor.remaining c

instance : FiniteCursor MergedCursor where
  next := next
  value := value
  remaining := remaining
  remaining_lt {c c'} h := by
    unfold next at h
    split at h <;> simp only [Prod.mk.injEq] at h <;> rw [← h.2]
    · exact FiniteCursor.remaining_lt (Prod.ext h.1 rfl)
    · exact FiniteCursor.remaining_lt (Prod.ext h.1 rfl)

end MergedCursor

/-- How the cursors of the units become one. -/
abbrev MergeStrategy :=
  Statement → QueryMetadata → List UnitCursor → Except ExecutionError MergedCursor

namespace MergeStrategy

/-- The units one after another, in dispatch order. -/
def concatenate : MergeStrategy := fun _ _ results => .ok (.chain (.ofList results))

/-- The rows of a unit, read into memory as far as there is room for them and cut to the columns of
the metadata. -/
def loadedRows (metadata : QueryMetadata) (result : UnitCursor) :
    Except ExecutionError (List Row) := do
  FiniteCursor.rows metadata.columnCount (← MemoryCursor.read result)

/-- All rows in reverse order, out of memory. -/
def reverse : MergeStrategy := fun _ metadata results => do
  let rows ← results.mapM (loadedRows metadata)
  return .memory (.ofRows metadata.columnCount rows.flatten.reverse)

/-- No merging at all. -/
def refuse : MergeStrategy := fun statement metadata results =>
  .error (.unsupported (.merge results.length metadata.columnCount statement.singleTable?))

end MergeStrategy

/-- The counts of the units of a statement taken together. -/
def StatementKind.summarise (kind : StatementKind) (units : List UpdateOutcome) : UpdateSummary :=
  match kind with
  | .dml | .dql | .dal => UpdateSummary.merge units
  | .ddl | .tcl | .dcl => UpdateSummary.first units

/-- The result of a statement from what its dispatch gave. -/
def Response.merge (strategy : MergeStrategy) (statement : Statement) :
    Response → Except ExecutionError (LogicalResult MergedCursor)
  | .query metadata results => do
    return .query (.ofCursor metadata (← strategy statement metadata results))
  | .update units => .ok (.update (statement.kind.summarise units))

end ScatterGather
