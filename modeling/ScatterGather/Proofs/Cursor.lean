import Mathlib.Data.List.Forall2
import ScatterGather.Merge.Strategy
import ScatterGather.Proofs.FirstError

/-!
# Reading cursors to their end

`Delivers width c rows` says what is still to come of a cursor: these rows, each over its first
`width` columns, and then the end. Whatever reads a cursor to its end gets them (`Delivers.rows_eq`,
`Delivers.read_eq`, `Delivers.drain_eq`), and cursors one after another deliver what each of them
delivers (`Concatenation.delivers_ofList`).
-/

namespace ScatterGather

/-- From where it stands a cursor visits these rows, over their first `width` columns, and then
comes to its end. -/
inductive Delivers {κ : Type} [RowCursor κ] (width : Nat) : κ → List Row → Prop where
  | finished {c c'} (h : RowCursor.next c = (.ok false, c')) : Delivers width c []
  | visited {c c' row rest} (h : RowCursor.next c = (.ok true, c'))
    (hv : RowCursor.values c' width = .ok row) (hrest : Delivers width c' rest) :
    Delivers width c (row :: rest)

section

variable {κ : Type} {width : Nat} {rows : List Row} {c c' : κ}

/-! ### One call of `next` -/

/-- A cursor at its end has no rows left. -/
theorem FiniteCursor.rows_of_finished [FiniteCursor κ] (h : RowCursor.next c = (.ok false, c')) :
    FiniteCursor.rows width c = .ok [] := by
  unfold FiniteCursor.rows
  split
  · next heq => cases h.symm.trans heq
  · rfl
  · next heq => cases h.symm.trans heq

/-- A cursor that fails has no rows to give. -/
theorem FiniteCursor.rows_of_failed [FiniteCursor κ] {e : ExecutionError}
    (h : RowCursor.next c = (.error e, c')) : FiniteCursor.rows width c = .error e := by
  unfold FiniteCursor.rows
  split
  · next heq =>
      cases h.symm.trans heq
      rfl
  · next heq => cases h.symm.trans heq
  · next heq => cases h.symm.trans heq

/-- A row that is visited is read before those behind it. -/
theorem FiniteCursor.rows_of_next [FiniteCursor κ] (h : RowCursor.next c = (.ok true, c')) :
    FiniteCursor.rows width c = (do
      let row ← RowCursor.values c' width
      let rest ← FiniteCursor.rows width c'
      return row :: rest) := by
  rw [FiniteCursor.rows]
  split
  · next heq => cases h.symm.trans heq
  · next heq => cases h.symm.trans heq
  · next heq =>
      cases h.symm.trans heq
      rfl

/-- A row that is visited comes before those that are visited behind it. -/
theorem FiniteCursor.rows_of_visited [FiniteCursor κ] (h : RowCursor.next c = (.ok true, c'))
    {row : Row} (hv : RowCursor.values c' width = .ok row)
    (hrest : FiniteCursor.rows width c' = .ok rows) :
    FiniteCursor.rows width c = .ok (row :: rows) := by
  rw [rows_of_next h, hv, hrest]
  rfl

variable {metadata : QueryMetadata} {place : RowPlace}

/-- A set whose cursor is at its end has no rows left. -/
theorem RowSet.drain_of_finished [FiniteCursor κ] (hp : place ≠ .exhausted)
    (h : RowCursor.next c = (.ok false, c')) :
    (RowSet.mk metadata c place).drain.1 = .ok [] := by
  have hs : (RowSet.mk metadata c place).advance = (.ok false, ⟨metadata, c', .exhausted⟩) := by
    rw [advance, if_neg hp, h]
  unfold RowSet.drain
  split
  · next heq => cases hs.symm.trans heq
  · rfl
  · next heq => cases hs.symm.trans heq

/-- All cells of a row that a set stands on are read. -/
theorem RowSet.row_eq_values [RowCursor κ] {row : Row}
    (hv : RowCursor.values c metadata.columnCount = .ok row) :
    (RowSet.mk metadata c .onRow).row = .ok row := by
  rw [RowCursor.values, mapM_eq_ok] at hv
  rw [RowSet.row, mapM_eq_ok, ← hv]
  apply List.map_congr_left
  intro column hcol
  have hlt : ¬metadata.columnCount ≤ column := Nat.not_le.mpr (List.mem_range.mp hcol)
  simp [RowSet.valueAt, hlt]

/-- A row that a set visits comes before those that it visits behind it. -/
theorem RowSet.drain_of_visited [FiniteCursor κ] (hp : place ≠ .exhausted)
    (h : RowCursor.next c = (.ok true, c')) {row : Row}
    (hv : RowCursor.values c' metadata.columnCount = .ok row)
    (hrest : (RowSet.mk metadata c' .onRow).drain.1 = .ok rows) :
    (RowSet.mk metadata c place).drain.1 = .ok (row :: rows) := by
  have hs : (RowSet.mk metadata c place).advance = (.ok true, ⟨metadata, c', .onRow⟩) := by
    rw [advance, if_neg hp, h]
  unfold RowSet.drain
  split
  · next heq => cases hs.symm.trans heq
  · next heq => cases hs.symm.trans heq
  · next heq =>
      cases hs.symm.trans heq
      rw [row_eq_values hv]
      simp [hrest]

/-! ### Reading to the end -/

namespace Delivers

/-- What a cursor delivers depends on what its next call of `next` gives alone. -/
theorem of_next_eq [RowCursor κ] (hc : RowCursor.next c' = RowCursor.next c)
    (h : Delivers width c rows) : Delivers width c' rows := by
  cases h with
  | finished h => exact .finished (hc.trans h)
  | visited h hv hrest => exact .visited (hc.trans h) hv hrest

/-- The rows that are left are those that the cursor delivers. -/
theorem rows_eq [FiniteCursor κ] (h : Delivers width c rows) :
    FiniteCursor.rows width c = .ok rows := by
  induction h with
  | finished h => exact FiniteCursor.rows_of_finished h
  | visited h hv _ ih => exact FiniteCursor.rows_of_visited h hv ih

/-- What is read into memory is what the cursor delivers. -/
theorem read_eq [FiniteCursor κ] [Columns κ] (h : Delivers (Columns.columnCount c) c rows) :
    MemoryCursor.read c = .ok (.ofRows (Columns.columnCount c) rows) := by
  rw [MemoryCursor.read, h.rows_eq]
  rfl

/-- What is read off a set is what its cursor delivers. -/
theorem drain_eq [FiniteCursor κ] (h : Delivers metadata.columnCount c rows)
    (hp : place ≠ .exhausted) : (RowSet.mk metadata c place).drain.1 = .ok rows := by
  induction h generalizing place with
  | finished h => exact RowSet.drain_of_finished hp h
  | visited h hv _ ih => exact RowSet.drain_of_visited hp h hv (ih nofun)

end Delivers

end

/-! ### Rows in memory -/

/-- All cells of a row in memory can be read. -/
theorem MemoryCursor.values_eq (columnCount : Nat) (row : Row) (ahead : List Row) :
    RowCursor.values (MemoryCursor.mk columnCount (some row) ahead) row.length = .ok row := by
  rw [RowCursor.values, mapM_eq_ok]
  apply List.ext_getElem (by simp)
  intro i hi _
  rw [List.length_map, List.length_range] at hi
  simp [RowCursor.value, MemoryCursor.value, List.getElem?_eq_getElem hi]

/-- A cursor over rows in memory delivers those ahead of it, when they are as wide as they are
read. -/
theorem MemoryCursor.delivers {width : Nat} {c : MemoryCursor}
    (h : ∀ row ∈ c.ahead, row.length = width) : Delivers width c c.ahead := by
  obtain ⟨columnCount, current, ahead⟩ := c
  induction ahead generalizing current with
  | nil => exact .finished rfl
  | cons row rest ih =>
      obtain ⟨rfl, hrest⟩ := List.forall_mem_cons.mp h
      have hnext : RowCursor.next (MemoryCursor.mk columnCount current (row :: rest)) =
          (.ok true, ⟨columnCount, some row, rest⟩) := rfl
      exact .visited hnext (MemoryCursor.values_eq columnCount row rest) (ih (some row) hrest)

/-- So does the cursor of a unit that does not break. -/
theorem Delivers.ofMemory {width : Nat} {c : MemoryCursor} {rows : List Row}
    (h : Delivers width c rows) : Delivers width (UnitCursor.ofMemory c) rows := by
  have hnext (c : MemoryCursor) : RowCursor.next (UnitCursor.ofMemory c) =
      ((RowCursor.next c).1, .ofMemory (RowCursor.next c).2) := rfl
  induction h with
  | @finished c c' h => exact .finished (by rw [hnext, h])
  | @visited c c' row rest h hv _ ih => exact .visited (by rw [hnext, h]) hv ih

/-- A cursor over rows in memory that does not break delivers those ahead of it, when they are as
wide as they are read. -/
theorem UnitCursor.delivers {width : Nat} {c : MemoryCursor}
    (h : ∀ row ∈ c.ahead, row.length = width) : Delivers width (UnitCursor.ofMemory c) c.ahead :=
  (MemoryCursor.delivers h).ofMemory

/-! ### Cursors one after another -/

namespace Concatenation

variable {κ : Type} [RowCursor κ] {width : Nat} {rows rest : List Row} {c : κ} {pending : List κ}

/-- Behind the rows of the cursor that is being read come those of the cursors that are not yet
begun. -/
theorem delivers_current (h : Delivers width c rows)
    (hrest : Delivers width (Concatenation.ofList pending) rest) :
    Delivers width (Concatenation.mk (some c) pending) (rows ++ rest) := by
  induction h with
  | @finished c c' h =>
      refine hrest.of_next_eq ?_
      change nextOf (c :: pending) = nextOf pending
      rw [nextOf, h]
  | @visited c c' row rows h hv _ ih =>
      have hnext : RowCursor.next (Concatenation.mk (some c) pending) =
          (.ok true, ⟨some c', pending⟩) := by
        change nextOf (c :: pending) = _
        rw [nextOf, h]
      exact .visited hnext hv ih

/-- **Cursors one after another deliver the rows of each in turn.** -/
theorem delivers_ofList {cursors : List κ} {rows : List (List Row)}
    (h : List.Forall₂ (Delivers width) cursors rows) :
    Delivers width (Concatenation.ofList cursors) rows.flatten := by
  induction h with
  | nil => exact .finished rfl
  | @cons c _ pending _ hc _ ih =>
      rw [List.flatten_cons]
      exact Delivers.of_next_eq (c := .mk (some c) pending) rfl (delivers_current hc ih)

end Concatenation

/-- Merged cursors deliver what they deliver one after another. -/
theorem MergedCursor.delivers_chain {width : Nat} {rows : List Row}
    {cursors : Concatenation UnitCursor} (h : Delivers width cursors rows) :
    Delivers width (MergedCursor.chain cursors) rows := by
  induction h with
  | @finished c c' h =>
      have hnext : RowCursor.next (MergedCursor.chain c) = (.ok false, .chain c') := by
        change MergedCursor.next (.chain c) = _
        rw [MergedCursor.next, h]
      exact .finished hnext
  | @visited c c' row rows h hv _ ih =>
      have hnext : RowCursor.next (MergedCursor.chain c) = (.ok true, .chain c') := by
        change MergedCursor.next (.chain c) = _
        rw [MergedCursor.next, h]
      exact .visited hnext hv ih

end ScatterGather
