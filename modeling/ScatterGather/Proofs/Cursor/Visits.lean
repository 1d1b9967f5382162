import ScatterGather.Merge.Strategy

/-!
# What a cursor visits

`Visits c rows failure` says all that is still to come of a cursor: these rows, of whatever width,
and behind them a failure or the end. On a row the cells of this row can be read and no others
(`StandsOn`). The cursor of a unit visits its rows, up to the call of `next` from which on it is
broken (`UnitCursor.visits`); units one after another visit the rows of each, up to the first
failure (`Concatenation.visits_ofList`).
-/

namespace ScatterGather

variable {κ : Type}

/-- The answer to a question for a cell: the cell, or a refusal where there is none. -/
def Answers (cell : Option Cell) (answer : Except ExecutionError Cell) : Prop :=
  match cell with
  | some c => answer = .ok c
  | none => ∃ fault, answer = .error (.invalidState fault)

/-- A cursor is on a row: the cells of this row can be read, and no others. -/
def StandsOn [RowCursor κ] (c : κ) (row : Row) : Prop :=
  ∀ column, Answers row[column]? (RowCursor.value c column)

/-- From where it stands a cursor visits these rows, and then it fails or comes to its end. -/
inductive Visits [RowCursor κ] : κ → List Row → Option ExecutionError → Prop where
  | finished {c c'} (h : RowCursor.next c = (.ok false, c')) : Visits c [] none
  | failed {c c' e} (h : RowCursor.next c = (.error e, c')) : Visits c [] (some e)
  | visited {c c' row rest failure} (h : RowCursor.next c = (.ok true, c'))
    (hon : StandsOn c' row) (hrest : Visits c' rest failure) : Visits c (row :: rest) failure

/-- What a cursor visits depends on what its next call of `next` gives alone. -/
theorem Visits.of_next_eq [RowCursor κ] {c c' : κ} {rows : List Row}
    {failure : Option ExecutionError} (hc : RowCursor.next c' = RowCursor.next c)
    (h : Visits c rows failure) : Visits c' rows failure := by
  cases h with
  | finished h => exact .finished (hc.trans h)
  | failed h => exact .failed (hc.trans h)
  | visited h hon hrest => exact .visited (hc.trans h) hon hrest

/-! ### The rows of one unit -/

namespace UnitCursor

/-- The rows that the cursor of a unit still gives: as many as it has before it breaks. -/
def rowsLeft (c : UnitCursor) : List Row :=
  match c.fault with
  | some (n, _) => c.rows.ahead.take n
  | none => c.rows.ahead

/-- The failure behind these rows: there is one when the cursor breaks before it has said that there
are no more. -/
def failure? (c : UnitCursor) : Option ExecutionError :=
  match c.fault with
  | some (n, e) => if n ≤ c.rows.ahead.length then some e else none
  | none => none

/-- On a row in memory its cells can be read. -/
theorem standsOn (columnCount : Nat) (row : Row) (ahead : List Row)
    (fault : Option (Nat × ExecutionError)) :
    StandsOn (UnitCursor.mk ⟨columnCount, some row, ahead⟩ fault) row := by
  intro column
  unfold Answers
  cases h : row[column]? with
  | none => exact ⟨_, by simp [RowCursor.value, MemoryCursor.value, h]; rfl⟩
  | some cell => simp [RowCursor.value, MemoryCursor.value, h]

/-- The cursor of a unit visits the rows that it has before it breaks. -/
theorem visits (c : UnitCursor) : Visits c c.rowsLeft c.failure? := by
  obtain ⟨⟨columnCount, current, ahead⟩, fault⟩ := c
  induction ahead generalizing current fault with
  | nil =>
      rcases fault with _ | ⟨_ | n, e⟩
      · exact .finished rfl
      · exact .failed rfl
      · exact .finished rfl
  | cons row rest ih =>
      rcases fault with _ | ⟨_ | n, e⟩
      · exact .visited rfl (standsOn columnCount row rest none) (ih _ _)
      · exact .failed rfl
      · have hfailure : failure? ⟨⟨columnCount, current, row :: rest⟩, some (n + 1, e)⟩ =
            failure? ⟨⟨columnCount, some row, rest⟩, some (n, e)⟩ := by
          simp [failure?]
        rw [hfailure]
        exact .visited rfl (standsOn columnCount row rest (some (n, e))) (ih _ _)

/-- The rows of units one after another, up to the first failure. -/
def rowsOf : List UnitCursor → List Row
  | [] => []
  | c :: cs => c.rowsLeft ++ if c.failure?.isSome then [] else rowsOf cs

/-- The first failure of units one after another. -/
def failureOf? : List UnitCursor → Option ExecutionError
  | [] => none
  | c :: cs => c.failure? <|> failureOf? cs

end UnitCursor

/-! ### Cursors one after another -/

namespace Concatenation

variable [RowCursor κ] {rows rest : List Row} {failure : Option ExecutionError} {c c' : κ}
  {pending : List κ}

/-- While a cursor has rows, the cursors behind it wait. -/
theorem next_of_visited (h : RowCursor.next c = (.ok true, c')) :
    RowCursor.next (Concatenation.mk (some c) pending) = (.ok true, ⟨some c', pending⟩) := by
  change nextOf (c :: pending) = _
  rw [nextOf, h]

/-- Cursors fail when the one that is being read fails. -/
theorem next_of_failed {e : ExecutionError} (h : RowCursor.next c = (.error e, c')) :
    RowCursor.next (Concatenation.mk (some c) pending) = (.error e, ⟨some c', pending⟩) := by
  change nextOf (c :: pending) = _
  rw [nextOf, h]

/-- At the end of a cursor the next one is begun. -/
theorem next_of_finished (h : RowCursor.next c = (.ok false, c')) :
    RowCursor.next (Concatenation.mk (some c) pending) =
      RowCursor.next (Concatenation.ofList pending) := by
  change nextOf (c :: pending) = nextOf pending
  rw [nextOf, h]

/-- Behind a failure the cursors that are not yet begun do not matter. -/
theorem visits_of_failed {e : ExecutionError} (h : Visits c rows (some e)) :
    Visits (Concatenation.mk (some c) pending) rows (some e) := by
  generalize hfailure : some e = failure at h
  induction h with
  | finished => cases hfailure
  | failed h =>
      cases hfailure
      exact .failed (next_of_failed h)
  | visited h hon _ ih => exact .visited (next_of_visited h) hon (ih hfailure)

/-- Behind the rows of the cursor that is being read come those of the others. -/
theorem visits_of_finished (h : Visits c rows none)
    (hrest : Visits (Concatenation.ofList pending) rest failure) :
    Visits (Concatenation.mk (some c) pending) (rows ++ rest) failure := by
  generalize hnone : (none : Option ExecutionError) = ending at h
  induction h with
  | finished h => exact hrest.of_next_eq (next_of_finished h)
  | failed => cases hnone
  | visited h hon _ ih => exact .visited (next_of_visited h) hon (ih hnone)

/-- **Units one after another visit the rows of each**, up to the first failure. -/
theorem visits_ofList (units : List UnitCursor) :
    Visits (Concatenation.ofList units) (UnitCursor.rowsOf units)
      (UnitCursor.failureOf? units) := by
  induction units with
  | nil => exact .finished rfl
  | cons c units ih =>
      have hc := c.visits
      refine Visits.of_next_eq (c := .mk (some c) units) rfl ?_
      unfold UnitCursor.rowsOf UnitCursor.failureOf?
      cases hfailure : c.failure? with
      | none =>
          rw [hfailure] at hc
          exact visits_of_finished hc ih
      | some e =>
          rw [hfailure] at hc
          simpa using visits_of_failed hc

end Concatenation

/-- Merged cursors visit what they visit one after another. -/
theorem MergedCursor.visits_chain {rows : List Row} {failure : Option ExecutionError}
    {cursors : Concatenation UnitCursor} (h : Visits cursors rows failure) :
    Visits (MergedCursor.chain cursors) rows failure := by
  have hnext (c : Concatenation UnitCursor) : RowCursor.next (MergedCursor.chain c) =
      ((RowCursor.next c).1, .chain (RowCursor.next c).2) := rfl
  induction h with
  | @finished c c' h => exact .finished (by rw [hnext, h])
  | @failed c c' e h => exact .failed (by rw [hnext, h])
  | @visited c c' row rest failure h hon _ ih => exact .visited (by rw [hnext, h]) hon ih

end ScatterGather
