import ScatterGather.Cursor.Memory

/-!
# The rows of one unit

What a data source delivers for one unit: rows in memory, and possibly a failure that every call of
`next` reports once a number of them has passed.
-/

namespace ScatterGather

/-- The cursor over the rows of one unit. -/
structure UnitCursor where
  rows : MemoryCursor
  /-- The number of `next` calls that still pass, and what every later one fails with. -/
  fault : Option (Nat × ExecutionError)
deriving Inhabited

namespace UnitCursor

/-- A cursor that does not fail. -/
def ofMemory (rows : MemoryCursor) : UnitCursor := ⟨rows, none⟩

/-- Moves to the next row, unless the cursor has broken. -/
def next (c : UnitCursor) : Except ExecutionError Bool × UnitCursor :=
  match c.fault with
  | some (0, e) => (.error e, c)
  | some (n + 1, e) => (.ok c.rows.next.1, ⟨c.rows.next.2, some (n, e)⟩)
  | none => (.ok c.rows.next.1, ⟨c.rows.next.2, none⟩)

instance : FiniteCursor UnitCursor where
  next := next
  value c := c.rows.value
  remaining c := c.rows.ahead.length
  remaining_lt {c c'} h := by
    refine MemoryCursor.next_ahead ?_
    unfold next at h
    split at h <;> simp_all [Prod.ext_iff]
    all_goals rw [← h.2]

instance : Columns UnitCursor := ⟨fun c => c.rows.columnCount⟩

end UnitCursor

end ScatterGather
