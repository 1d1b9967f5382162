import ScatterGather.Proofs.Merge.ListCursor

/-!
# Cells are read on a row

What can be read of the result of a query depends on what its last advance said, whatever its
metadata are and whatever its cursor does, also when the rows of the cursor never come to an end.
`RowSet.Performs` says what calls do to such a result, and with it what all advances said that they
made; `RowPlace.behind` is the place that the last of them leads to (`RowSet.Performs.place_eq`).

A single cell is refused off a row in any case. A whole row is put together from its cells, so it is
refused there as long as there is a column to read (`row_read_on_row`); a result without columns
gives an empty row wherever it stands (`row_without_columns`).
-/

namespace ScatterGather

variable {κ : Type}

/-! ### Calls on rows -/

section

variable [RowCursor κ]

/-- Draining, with what the advances said that it made. It ends with the first one that leads to no
row, and with the first row that cannot be read. -/
inductive RowSet.Drains : RowSet κ → List (Except ExecutionError Bool) → RowSet κ → Prop where
  | ended {s s' answer} (h : s.advance = (answer, s')) (hend : answer ≠ .ok true) :
    Drains s [answer] s'
  | unreadable {s s' e} (h : s.advance = (.ok true, s')) (hrow : s'.row = .error e) :
    Drains s [.ok true] s'
  | visited {s s' s'' row moves} (h : s.advance = (.ok true, s')) (hrow : s'.row = .ok row)
    (hrest : Drains s' moves s'') : Drains s (.ok true :: moves) s''

/-- What is left of rows behind calls, with what the advances said that they made. -/
inductive RowSet.Performs :
    RowSet κ → List ResultCall → List (Except ExecutionError Bool) → RowSet κ → Prop where
  | nothing (s) : Performs s [] [] s
  | advance {s s' calls moves} (h : Performs s.advance.2 calls moves s') :
    Performs s (.advance :: calls) (s.advance.1 :: moves) s'
  | drain {s s' s'' calls more moves} (hdrain : s.Drains more s')
    (h : Performs s' calls moves s'') : Performs s (.drain :: calls) (more ++ moves) s''
  | valueAt {s s' calls moves} (column : Nat) (h : Performs s calls moves s') :
    Performs s (.valueAt column :: calls) moves s'
  | valueAs {s s' calls moves} (target : Target) (column : Nat) (h : Performs s calls moves s') :
    Performs s (.valueAs target column :: calls) moves s'
  | row {s s' calls moves} (h : Performs s calls moves s') : Performs s (.row :: calls) moves s'

end

/-- Rows that come to an end are drained as far as draining says. -/
theorem RowSet.drains_drain [FiniteCursor κ] (s : RowSet κ) :
    s.Drains s.drainMoves s.drain.2 := by
  induction hk : s.remaining using Nat.strongRecOn generalizing s with
  | ind k ih =>
      obtain ⟨e, s', hadvance, hdrain, hmoves⟩ | ⟨s', hadvance, hdrain, hmoves⟩ |
        ⟨s', e, hadvance, hrow, hdrain, hmoves⟩ | ⟨s', row, hadvance, hrow, hdrain, hmoves⟩ :=
        s.drain_cases
      · rw [hmoves, hdrain]
        exact .ended hadvance nofun
      · rw [hmoves, hdrain]
        exact .ended hadvance nofun
      · rw [hmoves, hdrain]
        exact .unreadable hadvance hrow
      · rw [hmoves, hdrain]
        exact .visited hadvance hrow (ih _ (hk ▸ RowSet.remaining_advance hadvance) s' rfl)

/-- **Calls perform what they say**, where rows come to an end. -/
theorem LogicalResult.performs_performAll [FiniteCursor κ] (s : RowSet κ)
    (calls : List ResultCall) :
    ∃ s', (query s).performAll calls = query s' ∧
      s.Performs calls ((query s).allMoves calls) s' := by
  induction calls generalizing s with
  | nil => exact ⟨s, rfl, .nothing s⟩
  | cons call calls ih =>
      cases call with
      | advance =>
          obtain ⟨s', hs, h⟩ := ih s.advance.2
          exact ⟨s', hs, .advance h⟩
      | drain =>
          obtain ⟨s', hs, h⟩ := ih s.drain.2
          exact ⟨s', hs, .drain s.drains_drain h⟩
      | valueAt column =>
          obtain ⟨s', hs, h⟩ := ih s
          exact ⟨s', hs, .valueAt column h⟩
      | valueAs target column =>
          obtain ⟨s', hs, h⟩ := ih s
          exact ⟨s', hs, .valueAs target column h⟩
      | row =>
          obtain ⟨s', hs, h⟩ := ih s
          exact ⟨s', hs, .row h⟩

/-! ### The place behind the last advance -/

/-- The place that advances lead to from before the first row. -/
def RowPlace.behind (moves : List (Except ExecutionError Bool)) : RowPlace :=
  match moves.getLast? with
  | none => .beforeFirst
  | some (.ok true) => .onRow
  | some _ => .exhausted

theorem RowPlace.behind_eq_onRow_iff {moves : List (Except ExecutionError Bool)} :
    behind moves = .onRow ↔ moves.getLast? = some (.ok true) := by
  unfold behind
  split <;> simp_all

/-- Of advances one after another the later ones count, if there are any. -/
theorem RowPlace.behind_append (moves : List (Except ExecutionError Bool))
    {more : List (Except ExecutionError Bool)} (h : more ≠ []) :
    behind (moves ++ more) = behind more := by
  rw [behind, List.getLast?_append_of_ne_nil _ h, behind]

namespace RowSet

variable [RowCursor κ] {s s' : RowSet κ} {moves : List (Except ExecutionError Bool)}

/-- An advance leads to a row when it says so, and to the end otherwise. -/
theorem place_advance (s : RowSet κ) : s.advance.2.place = .behind [s.advance.1] := by
  unfold advance
  split
  · next h => exact h
  · split <;> rfl

/-- Draining leads to where its last advance does. -/
theorem Drains.place_eq (h : s.Drains moves s') : moves ≠ [] ∧ s'.place = .behind moves := by
  induction h with
  | @ended s s' answer h _ =>
      have hplace := s.place_advance
      rw [h] at hplace
      exact ⟨nofun, hplace⟩
  | @unreadable s s' e h _ =>
      have hplace := s.place_advance
      rw [h] at hplace
      exact ⟨nofun, hplace⟩
  | visited _ _ _ ih =>
      obtain ⟨hne, hplace⟩ := ih
      exact ⟨nofun, hplace.trans (RowPlace.behind_append [.ok true] hne).symm⟩

theorem Drains.metadata_eq (h : s.Drains moves s') : s'.metadata = s.metadata := by
  induction h with
  | @ended s s' answer h _ | @unreadable s s' e h _ =>
      have hkept := AtMove.metadata_advance s
      rwa [h] at hkept
  | @visited s s' s'' row moves h _ _ ih =>
      have hkept := AtMove.metadata_advance s
      rw [h] at hkept
      exact ih.trans hkept

namespace Performs

variable {calls : List ResultCall}

theorem metadata_eq (h : s.Performs calls moves s') : s'.metadata = s.metadata := by
  induction h with
  | nothing => rfl
  | @advance s s' calls moves _ ih => exact ih.trans (AtMove.metadata_advance s)
  | drain hdrain _ ih => exact ih.trans hdrain.metadata_eq
  | valueAt _ _ ih | valueAs _ _ _ ih | row _ ih => exact ih

/-- Calls lead to where the last advance does that they make, and nowhere when they make none. -/
theorem place_eq (h : s.Performs calls moves s') :
    s'.place = if moves = [] then s.place else .behind moves := by
  induction h with
  | nothing => rfl
  | @advance s s' calls moves _ ih =>
      rw [if_neg nofun, ih, s.place_advance]
      split
      · next hnil => rw [hnil]
      · next hne => exact (RowPlace.behind_append [s.advance.1] hne).symm
  | drain hdrain _ ih =>
      obtain ⟨hne, hplace⟩ := hdrain.place_eq
      rw [if_neg (List.append_ne_nil_of_left_ne_nil hne _), ih]
      split
      · next hnil => rw [hplace, hnil, List.append_nil]
      · next hmore => exact (RowPlace.behind_append _ hmore).symm
  | valueAt _ _ ih | valueAs _ _ _ ih | row _ ih => exact ih

/-- From before the first row, calls lead to the place behind their last advance. -/
theorem place_behind (h : s.Performs calls moves s') (hs : s.place = .beforeFirst) :
    s'.place = .behind moves := by
  rw [h.place_eq, hs]
  split
  · next hnil => rw [hnil]; rfl
  · rfl

end Performs

end RowSet

/-! ### Reading on a row and off it -/

/-- Why nothing can be read that was not led to a row. -/
def StateFault.offRow (moves : List (Except ExecutionError Bool)) : StateFault :=
  if moves = [] then .readBeforeAdvance else .readAfterEnd

/-- Off a row no cell can be read. -/
theorem RowSet.valueAt_offRow [RowCursor κ] {s : RowSet κ}
    {moves : List (Except ExecutionError Bool)} (hs : s.place = .behind moves)
    (h : moves.getLast? ≠ some (.ok true)) (column : Nat) :
    s.valueAt column = .error (.invalidState (.offRow moves)) := by
  cases hplace : s.place with
  | onRow => exact absurd (RowPlace.behind_eq_onRow_iff.mp (hs.symm.trans hplace)) h
  | beforeFirst =>
      have hnil : moves = [] := by
        rw [hplace, RowPlace.behind] at hs
        split at hs
        · next hlast => exact List.getLast?_eq_none_iff.mp hlast
        · cases hs
        · cases hs
      rw [valueAt, hplace, StateFault.offRow, if_pos hnil]
  | exhausted =>
      have hne : moves ≠ [] := by
        rintro rfl
        cases hplace.symm.trans hs
      rw [valueAt, hplace, StateFault.offRow, if_neg hne]

/-- Where no cell can be read there is no row, unless there is no column. -/
theorem RowSet.row_of_valueAt [RowCursor κ] {s : RowSet κ} {e : ExecutionError}
    (h : ∀ column, s.valueAt column = .error e) :
    s.row = if s.metadata.columnCount = 0 then .ok [] else .error e := by
  rw [row]
  split
  · next hzero => rw [hzero]; rfl
  · next hpos =>
      refine mapM_eq_error.mpr ⟨0, 0, ?_, h 0, fun _ _ hlt => (Nat.not_lt_zero _ hlt).elim⟩
      rw [List.getElem?_range (Nat.pos_of_ne_zero hpos)]

/-- How a result of so many columns can be read whose advances have said this. -/
structure ReadOnRow [RowCursor κ] (columns : Nat) (moves : List (Except ExecutionError Bool))
    (r : LogicalResult κ) : Prop where
  columnCount : r.columnCount = columns
  /-- A row is the cells of all columns. -/
  cells : ∀ row, r.row = .ok row ↔ (List.range columns).map (r.valueAt ·) = row.map .ok
  /-- A row is read where the last advance has led to one, or where there is no column. -/
  onRow : ∀ row, r.row = .ok row → moves.getLast? = some (.ok true) ∨ columns = 0
  /-- Anywhere else no cell is read, and a row is refused as its cells are, if it has any. -/
  offRow : moves.getLast? ≠ some (.ok true) →
    (∀ column, r.valueAt column = .error (.invalidState (.offRow moves))) ∧
      r.row = if columns = 0 then .ok [] else .error (.invalidState (.offRow moves))

/-- **Rows and cells are read on a row**, whatever has been called before; a row without columns is
read everywhere. -/
theorem row_read_on_row [RowCursor κ] {metadata : QueryMetadata} {cursor : κ}
    {calls : List ResultCall} {moves : List (Except ExecutionError Bool)} {s : RowSet κ}
    (h : (RowSet.ofCursor metadata cursor).Performs calls moves s) :
    ReadOnRow metadata.columnCount moves (.query s) := by
  have hplace := h.place_behind rfl
  have hcount : s.metadata.columnCount = metadata.columnCount :=
    congrArg QueryMetadata.columnCount h.metadata_eq
  have hoff (hlast : moves.getLast? ≠ some (.ok true)) :
      s.row = if metadata.columnCount = 0 then .ok []
        else .error (.invalidState (.offRow moves)) := by
    rw [RowSet.row_of_valueAt (RowSet.valueAt_offRow hplace hlast), hcount]
  refine ⟨hcount, ?_, ?_, fun hlast => ⟨RowSet.valueAt_offRow hplace hlast, hoff hlast⟩⟩
  · intro row
    rw [LogicalResult.row, RowSet.row, hcount]
    exact mapM_eq_ok
  · intro row hrow
    by_contra hneither
    obtain ⟨hlast, hcolumns⟩ := not_or.mp hneither
    have hrefused := hoff hlast
    rw [if_neg hcolumns] at hrefused
    cases hrow.symm.trans hrefused

/-- Two columns, and a single row that has one cell. -/
def narrowRow : RowSet MemoryCursor :=
  .ofCursor ⟨[⟨"id", none, .integer⟩, ⟨"name", none, .text⟩]⟩ (.ofRows 2 [[.null]])

/-- Draining stops at the row that is too narrow: the set stays on it, and its one cell is read.
The advance behind it leads to the end, where nothing is read. -/
theorem row_read_on_row_narrow : ∃ s,
    narrowRow.Performs [.row, .drain, .valueAt 0, .advance] [.ok true, .ok false] s ∧
      s.place = .exhausted ∧ ReadOnRow 2 [.ok true, .ok false] (.query s) := by
  have hdrain : narrowRow.Drains [.ok true] narrowRow.advance.2 := .unreadable rfl rfl
  have hcalls : narrowRow.Performs [.row, .drain, .valueAt 0, .advance] [.ok true, .ok false]
      narrowRow.advance.2.advance.2 := .row (.drain hdrain (.valueAt 0 (.advance (.nothing _))))
  exact ⟨_, hcalls, rfl, row_read_on_row hcalls⟩

/-- Rows of units that have no columns. -/
def noColumns : RowSet MergedCursor := .ofCursor ⟨[]⟩ (.chain (.ofList []))

/-- **Without columns a row is read off a row**: before the first advance and behind the end, where
no cell is. -/
theorem row_without_columns :
    (noColumns.Performs [] [] noColumns ∧ (LogicalResult.query noColumns).row = .ok [] ∧
      (LogicalResult.query noColumns).valueAt 0 = .error (.invalidState .readBeforeAdvance)) ∧
    ∃ s, noColumns.Performs [.advance] [.ok false] s ∧ (LogicalResult.query s).row = .ok [] ∧
      (LogicalResult.query s).valueAt 0 = .error (.invalidState .readAfterEnd) :=
  ⟨⟨.nothing _, rfl, rfl⟩, _, .advance (.nothing _), rfl, rfl⟩

end ScatterGather
