import ScatterGather.Cursor.Basic
import ScatterGather.Merge.UpdateSummary

/-!
# The result of a statement

One cursor over the rows of all units, or the counts of the whole statement. `RowSet` keeps the
place of its cursor: before the first row, on a row, or at the end, which is final and which a
failure leads to as well. Cells can be read on a row only.
-/

namespace ScatterGather

/-- Where a row set stands. -/
inductive RowPlace where
  | beforeFirst
  | onRow
  | exhausted
deriving DecidableEq, Inhabited, Repr

/-- The debug text of a place. -/
def RowPlace.debug : RowPlace → String
  | .beforeFirst => "BeforeFirst"
  | .onRow => "OnRow"
  | .exhausted => "Exhausted"

/-- The merged rows of a statement. -/
structure RowSet (κ : Type) where
  metadata : QueryMetadata
  cursor : κ
  place : RowPlace
deriving Inhabited

namespace RowSet

/-- Rows of which none has been visited. -/
def ofCursor (metadata : QueryMetadata) (cursor : κ) : RowSet κ := ⟨metadata, cursor, .beforeFirst⟩

/-- Moves to the next row. -/
def advance [RowCursor κ] (s : RowSet κ) : Except ExecutionError Bool × RowSet κ :=
  if s.place = .exhausted then (.ok false, s)
  else
    match RowCursor.next s.cursor with
    | (.ok true, c) => (.ok true, { s with cursor := c, place := .onRow })
    | (.ok false, c) => (.ok false, { s with cursor := c, place := .exhausted })
    | (.error e, c) => (.error e, { s with cursor := c, place := .exhausted })

/-- The cell of a column of the current row. -/
def valueAt [RowCursor κ] (s : RowSet κ) (column : Nat) : Except ExecutionError Cell :=
  match s.place with
  | .beforeFirst => .error (.invalidState .readBeforeAdvance)
  | .exhausted => .error (.invalidState .readAfterEnd)
  | .onRow =>
    if s.metadata.columnCount ≤ column then
      .error (.invalidState (.columnOutOfRange column s.metadata.columnCount))
    else RowCursor.value s.cursor column

/-- All cells of the current row, over the columns of the metadata. -/
def row [RowCursor κ] (s : RowSet κ) : Except ExecutionError Row :=
  (List.range s.metadata.columnCount).mapM s.valueAt

/-- A bound on the rows still to come. -/
def remaining [FiniteCursor κ] (s : RowSet κ) : Nat := FiniteCursor.remaining s.cursor

theorem remaining_advance [FiniteCursor κ] {s s' : RowSet κ} (h : s.advance = (.ok true, s')) :
    s'.remaining < s.remaining := by
  unfold advance at h
  split at h
  · simp at h
  · split at h <;> simp at h
    rename_i hc
    subst h
    exact FiniteCursor.remaining_lt hc

/-- Reads the rows that are left, up to the end or the first failure. -/
def drain [FiniteCursor κ] (s : RowSet κ) : Except ExecutionError (List Row) × RowSet κ :=
  match _h : s.advance with
  | (.error e, s') => (.error e, s')
  | (.ok false, s') => (.ok [], s')
  | (.ok true, s') =>
    match s'.row with
    | .error e => (.error e, s')
    | .ok row =>
      let (rest, last) := drain s'
      ((row :: ·) <$> rest, last)
termination_by s.remaining
decreasing_by exact remaining_advance ‹_›

end RowSet

/-- The result of one statement. -/
inductive LogicalResult (κ : Type) where
  | query (rows : RowSet κ)
  | update (summary : UpdateSummary)
deriving Inhabited

namespace LogicalResult

/-- The result has rows. -/
def isQuery : LogicalResult κ → Bool
  | .query _ => true
  | .update _ => false

/-- The metadata of the rows. -/
def metadata? : LogicalResult κ → Option QueryMetadata
  | .query rows => some rows.metadata
  | .update _ => none

/-- The number of columns; none without rows. -/
def columnCount (r : LogicalResult κ) : Nat := (r.metadata?.map (·.columnCount)).getD 0

/-- Moves to the next row. -/
def advance [RowCursor κ] : LogicalResult κ → Except ExecutionError Bool × LogicalResult κ
  | .query rows => (rows.advance.1, .query rows.advance.2)
  | .update u => (.error (.invalidState .updateHasNoRows), .update u)

/-- The cell of a column of the current row. -/
def valueAt [RowCursor κ] (column : Nat) : LogicalResult κ → Except ExecutionError Cell
  | .query rows => rows.valueAt column
  | .update _ => .error (.invalidState .updateHasNoValues)

/-- The cell of a column of the current row, read as a value of a type. -/
def valueAs [RowCursor κ] (target : Target) (column : Nat) (r : LogicalResult κ) :
    Except ExecutionError Cell := do
  let cell ← r.valueAt column
  match target.convert cell with
  | .ok v => return v
  | .error m => throw (.invalidState (.unreadableAs column cell target m))

/-- All cells of the current row. -/
def row [RowCursor κ] : LogicalResult κ → Except ExecutionError Row
  | .query rows => rows.row
  | .update _ => .error (.invalidState .updateHasNoValues)

/-- Reads the rows that are left. -/
def drain [FiniteCursor κ] : LogicalResult κ → Except ExecutionError (List Row) × LogicalResult κ
  | .query rows => (rows.drain.1, .query rows.drain.2)
  | .update u => (.error (.invalidState .updateHasNoRows), .update u)

/-- The number of affected rows of an update. -/
def affectedRows? : LogicalResult κ → Option UInt64
  | .query _ => none
  | .update u => some u.affectedRows

/-- The generated id of an update. -/
def lastInsertId? : LogicalResult κ → Option UInt64
  | .query _ => none
  | .update u => some u.lastInsertId

/-- The debug text of a result. -/
def debug : LogicalResult κ → String
  | .query rows =>
    Text.debugRecord "Query" [("metadata", rows.metadata.debug), ("state", rows.place.debug)]
  | .update u => Text.debugVariant "Update" u.debug

end LogicalResult

end ScatterGather
