import ScatterGather.Error

/-!
# Forward-only cursors over rows

A cursor moves from row to row with `next` and gives the cells of the row it is on with `value`;
either may fail. A `FiniteCursor` has a measure that every row visited makes smaller, so its rows
can be read to the end: `load` reads them one by one, over as many columns as the cursor says it
has.
-/

namespace ScatterGather

/-- One row: its cells in column order. -/
abbrev Row := List Cell

/-- A cursor that moves forward over rows. -/
class RowCursor (κ : Type) where
  /-- Moves to the next row and says whether there is one. -/
  next : κ → Except ExecutionError Bool × κ
  /-- The cell of a column of the row the cursor is on. -/
  value : κ → Nat → Except ExecutionError Cell

/-- A cursor whose rows come to an end. -/
class FiniteCursor (κ : Type) extends RowCursor κ where
  /-- A bound on the rows still to come. -/
  remaining : κ → Nat
  /-- Every row visited is one less to come. -/
  remaining_lt : ∀ {c c' : κ}, next c = (.ok true, c') → remaining c' < remaining c

/-- A cursor that says how many columns its rows have. -/
class Columns (κ : Type) where
  columnCount : κ → Nat

namespace RowCursor

/-- The cells of the first `n` columns of the row the cursor is on, or the first failure among
them. -/
def values [RowCursor κ] (c : κ) (n : Nat) : Except ExecutionError Row :=
  (List.range n).mapM (value c)

end RowCursor

namespace FiniteCursor

/-- Reads the remaining rows over their first `width` columns, up to the end or a failure. -/
def rows [FiniteCursor κ] (width : Nat) (c : κ) : Except ExecutionError (List Row) :=
  match _h : RowCursor.next c with
  | (.error e, _) => .error e
  | (.ok false, _) => .ok []
  | (.ok true, c') => do
    let row ← RowCursor.values c' width
    let rest ← rows width c'
    return row :: rest
termination_by remaining c
decreasing_by exact remaining_lt ‹_›

/-- The cells of the remaining rows over their first `width` columns, each with its own failure,
and the failure that ended the reading when it was not the end of the rows. -/
def cells [FiniteCursor κ] (width : Nat) (c : κ) :
    List (List (Except ExecutionError Cell)) × Option ExecutionError :=
  match _h : RowCursor.next c with
  | (.error e, _) => ([], some e)
  | (.ok false, _) => ([], none)
  | (.ok true, c') =>
    let (rest, failure) := cells width c'
    ((List.range width).map (RowCursor.value c') :: rest, failure)
termination_by remaining c
decreasing_by exact remaining_lt ‹_›

end FiniteCursor

end ScatterGather
