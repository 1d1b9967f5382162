import ScatterGather.Cursor.Basic

/-!
# Rows in memory

A `MemoryCursor` holds the row it is on and the rows ahead of it. It starts before the first row
and stays behind the last one. The number of columns is what it was told, whatever the width of its
rows; a cell is looked up in the row alone.

`MemoryCursor.load` reads the rows of another cursor into memory. It asks for the whole room of a
row before it reads the first cell, and the program breaks off where there can be none. `read` is
what it comes to where there is room.
-/

namespace ScatterGather

/-- A cursor over rows held in memory. -/
structure MemoryCursor where
  columnCount : Nat
  /-- The row the cursor is on. -/
  current : Option Row
  /-- The rows still to come. -/
  ahead : List Row
deriving Inhabited

namespace MemoryCursor

/-- A cursor before the first of some rows. -/
def ofRows (columnCount : Nat) (rows : List Row) : MemoryCursor := ⟨columnCount, none, rows⟩

/-- Moves to the next row. -/
def next (c : MemoryCursor) : Bool × MemoryCursor :=
  match c.ahead with
  | row :: rest => (true, { c with current := some row, ahead := rest })
  | [] => (false, { c with current := none })

/-- The cell of a column of the current row. -/
def value (c : MemoryCursor) (column : Nat) : Except ExecutionError Cell :=
  match c.current with
  | none => .error (.invalidState .cursorNotOnRow)
  | some row =>
    match row[column]? with
    | some cell => .ok cell
    | none => .error (.invalidState (.columnOutOfRange column row.length))

theorem next_ahead {c c' : MemoryCursor} (h : c.next = (true, c')) :
    c'.ahead.length < c.ahead.length := by
  unfold next at h
  split at h
  · next row rest ahead =>
    have current : { c with current := some row, ahead := rest } = c' := (Prod.mk.inj h).2
    rw [← current, ahead]
    exact Nat.lt_succ_self _
  · exact absurd (Prod.mk.inj h).1 (by decide)

instance : FiniteCursor MemoryCursor where
  next c := (.ok c.next.1, c.next.2)
  value := value
  remaining c := c.ahead.length
  remaining_lt {c c'} h := next_ahead (by simp_all [Prod.ext_iff])

instance : Columns MemoryCursor := ⟨columnCount⟩

/-- Reads the remaining rows of a cursor into memory, over the columns it says it has, as far as
there is room for them. -/
def read [FiniteCursor κ] [Columns κ] (source : κ) : Except ExecutionError MemoryCursor := do
  let width := Columns.columnCount source
  return ofRows width (← FiniteCursor.rows width source)

/-! ### Room for the rows -/

/-- Rows of so many columns have no room in memory. A cell takes 32 bytes, and what is asked for at
once must stay below 2^63. -/
def widthLimit : Nat := 0x8000000000000000 / 32

/-- How reading rows into memory ends without them. -/
inductive Failure where
  /-- A call of the cursor fails. -/
  | failed (e : ExecutionError)
  /-- There is no room for a row: the program breaks off. -/
  | capacityOverflow

/-- Asks for the room of a row. -/
def reserve (width : Nat) : Except Failure Unit :=
  if width < widthLimit then .ok () else .error .capacityOverflow

/-- Reads the remaining rows, each into room that is asked for before its cells are read. -/
def loadRows [FiniteCursor κ] (width : Nat) (c : κ) : Except Failure (List Row) :=
  match _h : RowCursor.next c with
  | (.error e, _) => .error (.failed e)
  | (.ok false, _) => .ok []
  | (.ok true, c') => do
    reserve width
    let row ← (RowCursor.values c' width).mapError .failed
    let rest ← loadRows width c'
    return row :: rest
termination_by FiniteCursor.remaining c
decreasing_by exact FiniteCursor.remaining_lt ‹_›

/-- Reads the remaining rows of a cursor into memory, over the columns it says it has. -/
def load [FiniteCursor κ] [Columns κ] (source : κ) : Except Failure MemoryCursor := do
  let width := Columns.columnCount source
  return ofRows width (← loadRows width source)

end MemoryCursor

end ScatterGather
