import Mathlib.Data.List.Basic
import ScatterGather.Proofs.Cursor.Visits
import ScatterGather.Proofs.FirstError

/-!
# The result of a query is a cursor over a list

A `RowList` is a list of rows with, possibly, a failure behind them. All that a cursor over it can
answer is settled by how often it has been advanced: what the next advance says (`RowList.moved`),
which cells can be read (`RowList.cell?`), and what is drained (`RowList.drained?`). `AtMove l n s`
ties a row set to such a cursor after `n` advances. One advance keeps the tie (`AtMove.advance`),
and so does draining, which is as many advances as it makes (`AtMove.drain`). By induction on the
calls, every result of units read one after another answers as the cursor over their rows
(`cursor_follows_list`).
-/

namespace ScatterGather

/-! ### Cursors over lists -/

/-- Rows, and the failure behind them when there is one. -/
structure RowList where
  rows : List Row
  failure : Option ExecutionError

namespace RowList

/-- What is said by the advance that comes after `n` others: that there is a row, as often as there
are rows; then the failure, or that there is none; and ever after that there is none. -/
def moved (l : RowList) (n : Nat) : Except ExecutionError Bool :=
  if n < l.rows.length then .ok true
  else if n = l.rows.length then
    match l.failure with
    | some e => .error e
    | none => .ok false
  else .ok false

/-- The row that `n` advances lead to: the `n`-th. -/
def row? (l : RowList) : Nat → Option Row
  | 0 => none
  | n + 1 => l.rows[n]?

/-- The cell of a column after `n` advances, where so many columns are read. -/
def cell? (l : RowList) (width n column : Nat) : Option Cell :=
  (l.row? n).bind fun row => if column < width then row[column]? else none

/-- The rows that are drained after `n` advances: those that are left, cut to their columns, when
all of them have so many and no failure is to come. -/
def drained? (l : RowList) (width n : Nat) : Option (List Row) :=
  if (∀ row ∈ l.rows.drop n, width ≤ row.length) ∧ (l.failure.isNone ∨ l.rows.length < n) then
    some ((l.rows.drop n).map (·.take width))
  else none

variable {l : RowList} {width n : Nat}

theorem moved_of_lt (h : n < l.rows.length) : l.moved n = .ok true := if_pos h

theorem moved_of_gt (h : l.rows.length < n) : l.moved n = .ok false := by
  rw [moved, if_neg (by omega), if_neg (by omega)]

theorem moved_eq_true_iff : l.moved n = .ok true ↔ n < l.rows.length := by
  refine ⟨fun h => ?_, moved_of_lt⟩
  by_contra hn
  unfold moved at h
  rw [if_neg hn] at h
  split at h
  · split at h <;> cases h
  · cases h

theorem of_moved_error {e : ExecutionError} (h : l.moved n = .error e) :
    n = l.rows.length ∧ l.failure = some e := by
  unfold moved at h
  split at h
  · cases h
  · split at h
    · next hn =>
        split at h
        · next heq =>
            cases h
            exact ⟨hn, heq⟩
        · cases h
    · cases h

theorem of_moved_false (h : l.moved n = .ok false) :
    l.rows.length ≤ n ∧ (l.failure.isNone ∨ l.rows.length < n) := by
  unfold moved at h
  split at h
  · cases h
  · next hn =>
      refine ⟨Nat.not_lt.mp hn, ?_⟩
      split at h
      · split at h
        · cases h
        · next heq => exact .inl (by rw [heq]; rfl)
      · exact .inr (by omega)

/-- Behind the rows nothing is drained, unless a failure is to come. -/
theorem drained?_of_ge (h : l.rows.length ≤ n) :
    l.drained? width n = if l.failure.isNone ∨ l.rows.length < n then some [] else none := by
  rw [drained?, List.drop_of_length_le h]
  simp

/-- A row is drained with those behind it, when it is wide enough. -/
theorem drained?_of_getElem? {row : Row} (h : l.rows[n]? = some row) :
    l.drained? width n =
      if width ≤ row.length then (l.drained? width (n + 1)).map (row.take width :: ·)
      else none := by
  obtain ⟨hn, hrow⟩ := List.getElem?_eq_some_iff.mp h
  have hover : l.rows.length < n ↔ l.rows.length < n + 1 := by omega
  rw [drained?, drained?, List.drop_eq_getElem_cons hn, hrow]
  simp only [List.forall_mem_cons, hover]
  by_cases hwide : width ≤ row.length
  · simp only [hwide, true_and, if_true]
    split <;> rfl
  · simp [hwide]

end RowList

/-! ### Calls -/

/-- What may be asked of a result. -/
inductive ResultCall where
  | advance
  | valueAt (column : Nat)
  | valueAs (target : Target) (column : Nat)
  | row
  | drain

/-- What the advances say that draining makes. -/
def RowSet.drainMoves {κ : Type} [FiniteCursor κ] (s : RowSet κ) :
    List (Except ExecutionError Bool) :=
  match _h : s.advance with
  | (.error e, _) => [.error e]
  | (.ok false, _) => [.ok false]
  | (.ok true, s') =>
    match s'.row with
    | .error _ => [.ok true]
    | .ok _ => .ok true :: drainMoves s'
termination_by s.remaining
decreasing_by exact remaining_advance ‹_›

/-- All that draining can do: it ends with the first advance that says something else than that
there is a row, and with the first row that cannot be read. -/
theorem RowSet.drain_cases {κ : Type} [FiniteCursor κ] (s : RowSet κ) :
    (∃ e s', s.advance = (.error e, s') ∧ s.drain = (.error e, s') ∧
      s.drainMoves = [.error e]) ∨
    (∃ s', s.advance = (.ok false, s') ∧ s.drain = (.ok [], s') ∧ s.drainMoves = [.ok false]) ∨
    (∃ s' e, s.advance = (.ok true, s') ∧ s'.row = .error e ∧ s.drain = (.error e, s') ∧
      s.drainMoves = [.ok true]) ∨
    ∃ s' row, s.advance = (.ok true, s') ∧ s'.row = .ok row ∧
      s.drain = ((row :: ·) <$> s'.drain.1, s'.drain.2) ∧
      s.drainMoves = .ok true :: s'.drainMoves := by
  cases hadvance : s.advance with
  | mk answer s' =>
      cases answer with
      | error e =>
          refine .inl ⟨e, s', rfl, ?_, ?_⟩
          · unfold drain
            split <;> simp_all
          · unfold drainMoves
            split <;> simp_all
      | ok more =>
          cases more with
          | false =>
              refine .inr (.inl ⟨s', rfl, ?_, ?_⟩)
              · unfold drain
                split <;> simp_all
              · unfold drainMoves
                split <;> simp_all
          | true =>
              cases hrow : s'.row with
              | error e =>
                  refine .inr (.inr (.inl ⟨s', e, rfl, hrow, ?_, ?_⟩))
                  · unfold drain
                    split <;> simp_all
                  · unfold drainMoves
                    split <;> simp_all
              | ok row =>
                  refine .inr (.inr (.inr ⟨s', row, rfl, hrow, ?_, ?_⟩))
                  · rw [drain]
                    split <;> simp_all
                  · rw [drainMoves]
                    split <;> simp_all

namespace LogicalResult

variable {κ : Type} [FiniteCursor κ]

/-- The result behind a call. -/
def perform (r : LogicalResult κ) : ResultCall → LogicalResult κ
  | .advance => r.advance.2
  | .drain => r.drain.2
  | .valueAt _ | .valueAs _ _ | .row => r

/-- What the advances say that a call makes. -/
def moves : LogicalResult κ → ResultCall → List (Except ExecutionError Bool)
  | r, .advance => [r.advance.1]
  | .query s, .drain => s.drainMoves
  | .update _, .drain => [.error (.invalidState .updateHasNoRows)]
  | _, .valueAt _ | _, .valueAs _ _ | _, .row => []

/-- The result behind calls. -/
def performAll (r : LogicalResult κ) (calls : List ResultCall) : LogicalResult κ :=
  calls.foldl perform r

/-- What all advances say that calls make. -/
def allMoves (r : LogicalResult κ) : List ResultCall → List (Except ExecutionError Bool)
  | [] => []
  | call :: calls => r.moves call ++ allMoves (r.perform call) calls

end LogicalResult

/-! ### One advance -/

/-- A row set stands where a cursor over the list stands after `n` advances. -/
inductive AtMove {κ : Type} [RowCursor κ] (l : RowList) : Nat → RowSet κ → Prop where
  | start {metadata c} (h : Visits c l.rows l.failure) : AtMove l 0 ⟨metadata, c, .beforeFirst⟩
  | onRow {metadata c n row} (hrow : l.rows[n]? = some row) (hon : StandsOn c row)
    (hrest : Visits c (l.rows.drop (n + 1)) l.failure) : AtMove l (n + 1) ⟨metadata, c, .onRow⟩
  | ended {metadata c n} (h : l.rows.length < n) : AtMove l n ⟨metadata, c, .exhausted⟩

namespace AtMove

variable {κ : Type} {l : RowList} {n : Nat}

section

variable [RowCursor κ] {s : RowSet κ}

/-- An advance says what the cursor over the list says, as long as there was no end. -/
theorem advance_of_visits {metadata : QueryMetadata} {c : κ} {place : RowPlace}
    (hplace : place ≠ .exhausted) (hn : n ≤ l.rows.length)
    (h : Visits c (l.rows.drop n) l.failure) :
    (RowSet.mk metadata c place).advance.1 = l.moved n ∧
      AtMove l (n + 1) (RowSet.mk metadata c place).advance.2 := by
  generalize hrows : l.rows.drop n = rows at h
  generalize hfailure : l.failure = failure at h
  cases h with
  | finished h =>
      have hlen : n = l.rows.length := by
        have := List.drop_eq_nil_iff.mp hrows
        omega
      rw [RowSet.advance, if_neg hplace, h, RowList.moved, if_neg (by omega), if_pos hlen, hfailure]
      exact ⟨rfl, .ended (by omega)⟩
  | failed h =>
      have hlen : n = l.rows.length := by
        have := List.drop_eq_nil_iff.mp hrows
        omega
      rw [RowSet.advance, if_neg hplace, h, RowList.moved, if_neg (by omega), if_pos hlen, hfailure]
      exact ⟨rfl, .ended (by omega)⟩
  | @visited _ c' row rest _ h hon hrest =>
      have hrow : l.rows[n]? = some row := by rw [← List.head?_drop, hrows, List.head?_cons]
      have htail : l.rows.drop (n + 1) = rest := by rw [← List.tail_drop, hrows, List.tail_cons]
      rw [RowSet.advance, if_neg hplace, h,
        RowList.moved_of_lt (List.getElem?_eq_some_iff.mp hrow).1]
      subst htail hfailure
      exact ⟨rfl, .onRow hrow hon hrest⟩

/-- **One advance** says what the cursor over the list says, and keeps to it. -/
theorem advance (h : AtMove l n s) : s.advance.1 = l.moved n ∧ AtMove l (n + 1) s.advance.2 := by
  cases h with
  | start h => exact advance_of_visits nofun (Nat.zero_le _) h
  | onRow hrow hon hrest =>
      exact advance_of_visits nofun (List.getElem?_eq_some_iff.mp hrow).1 hrest
  | ended h =>
      rw [RowSet.advance, if_pos rfl, RowList.moved_of_gt h]
      exact ⟨rfl, .ended (by omega)⟩

/-- A cell can be read where the cursor over the list has it, and nowhere else. -/
theorem valueAt (h : AtMove l n s) (column : Nat) :
    Answers (l.cell? s.metadata.columnCount n column) (s.valueAt column) := by
  cases h with
  | start h => exact ⟨_, rfl⟩
  | @onRow metadata c n row hrow hon hrest =>
      rw [RowList.cell?, RowList.row?, hrow, Option.bind_some]
      unfold RowSet.valueAt
      by_cases hcolumn : column < metadata.columnCount
      · simpa [hcolumn, Nat.not_le.mpr hcolumn] using hon column
      · simp [hcolumn, Nat.not_lt.mp hcolumn, Answers]
  | @ended metadata c n h =>
      have hrow : l.row? n = none := by
        cases n with
        | zero => rfl
        | succ n => exact List.getElem?_eq_none (by omega)
      rw [RowList.cell?, hrow]
      exact ⟨_, rfl⟩

/-- The row is read, cut to the columns, when it is wide enough. -/
theorem row_eq_ok {row : Row} (h : AtMove l n s) (hrow : l.row? n = some row)
    (hwide : s.metadata.columnCount ≤ row.length) :
    s.row = .ok (row.take s.metadata.columnCount) := by
  rw [RowSet.row, mapM_eq_ok]
  apply List.ext_getElem
  · simp [hwide]
  · intro column hleft hright
    have hcolumn : column < s.metadata.columnCount := by simpa using hleft
    have hlt : column < row.length := by omega
    have hcell := h.valueAt column
    rw [RowList.cell?, hrow, Option.bind_some, if_pos hcolumn, List.getElem?_eq_getElem hlt]
      at hcell
    simpa [Answers] using hcell

/-- A row that is too narrow is not read. -/
theorem row_eq_error {row : Row} (h : AtMove l n s) (hrow : l.row? n = some row)
    (hnarrow : row.length < s.metadata.columnCount) : ∃ e, s.row = .error e := by
  cases hs : s.row with
  | error e => exact ⟨e, rfl⟩
  | ok cells =>
      rw [RowSet.row, mapM_eq_ok] at hs
      have hcell := h.valueAt row.length
      rw [RowList.cell?, hrow, Option.bind_some, if_pos hnarrow, List.getElem?_length] at hcell
      obtain ⟨fault, hfault⟩ := hcell
      have hat : (RowSet.valueAt s <$> (List.range s.metadata.columnCount)[row.length]?) =
          Except.ok <$> cells[row.length]? := by
        simpa using congrArg (·[row.length]?) hs
      rw [List.getElem?_range hnarrow] at hat
      cases hcells : cells[row.length]? <;> simp [hcells, hfault] at hat

end

/-! ### Draining -/

variable [FiniteCursor κ] {s : RowSet κ}

theorem metadata_advance {κ : Type} [RowCursor κ] (s : RowSet κ) :
    s.advance.2.metadata = s.metadata := by
  unfold RowSet.advance
  split
  · rfl
  · split <;> rfl

/-- What is drained is what the cursor over the list drains. -/
theorem drained (h : AtMove l n s) :
    match l.drained? s.metadata.columnCount n with
    | some rows => s.drain.1 = .ok rows
    | none => ∃ e, s.drain.1 = .error e := by
  induction hk : s.remaining using Nat.strongRecOn generalizing n s with
  | ind k ih =>
      obtain ⟨hmoved, hnext⟩ := h.advance
      have hmetadata := metadata_advance s
      obtain ⟨e, s', hadvance, hdrain, -⟩ | ⟨s', hadvance, hdrain, -⟩ |
        ⟨s', e, hadvance, hrow, hdrain, -⟩ | ⟨s', row, hadvance, hrow, hdrain, -⟩ := s.drain_cases
      · rw [hadvance] at hmoved
        obtain ⟨hn, hfailure⟩ := RowList.of_moved_error hmoved.symm
        rw [RowList.drained?_of_ge (Nat.le_of_eq hn.symm), hdrain, hfailure, hn]
        simp
      · rw [hadvance] at hmoved
        obtain ⟨hn, hfailure⟩ := RowList.of_moved_false hmoved.symm
        rw [RowList.drained?_of_ge hn, if_pos hfailure, hdrain]
      · rw [hadvance] at hmoved hnext hmetadata
        have hlt := RowList.moved_eq_true_iff.mp hmoved.symm
        have hget := List.getElem?_eq_getElem hlt
        have hnarrow : ¬ s.metadata.columnCount ≤ l.rows[n].length := by
          intro hwide
          cases hrow.symm.trans (hnext.row_eq_ok hget (hmetadata ▸ hwide))
        rw [RowList.drained?_of_getElem? hget, if_neg hnarrow, hdrain]
        exact ⟨e, rfl⟩
      · rw [hadvance] at hmoved hnext hmetadata
        have hlt := RowList.moved_eq_true_iff.mp hmoved.symm
        have hget := List.getElem?_eq_getElem hlt
        have hwide : s.metadata.columnCount ≤ l.rows[n].length := by
          by_contra hnarrow
          obtain ⟨e, he⟩ := hnext.row_eq_error hget (hmetadata ▸ Nat.not_le.mp hnarrow)
          cases hrow.symm.trans he
        have htake := hrow.symm.trans (hnext.row_eq_ok hget (hmetadata ▸ hwide))
        rw [hmetadata] at htake
        cases htake
        have hrest := ih _ (hk ▸ RowSet.remaining_advance hadvance) hnext rfl
        rw [hmetadata] at hrest
        rw [RowList.drained?_of_getElem? hget, if_pos hwide, hdrain]
        cases hd : l.drained? s.metadata.columnCount (n + 1) with
        | none =>
            rw [hd] at hrest
            obtain ⟨e, he⟩ := hrest
            exact ⟨e, by simp [he]⟩
        | some rows =>
            rw [hd] at hrest
            have hdrained : s'.drain.1 = .ok rows := hrest
            simp [hdrained]

/-- Draining that ends with one advance says what this one says. -/
theorem drain_once {answer : Except ExecutionError Bool} {s' : RowSet κ} (h : AtMove l n s)
    (hadvance : s.advance = (answer, s')) :
    [answer] = (List.range' n 1).map l.moved ∧ AtMove l (n + 1) s' := by
  obtain ⟨hmoved, hnext⟩ := h.advance
  rw [hadvance] at hmoved hnext
  exact ⟨by simp [← hmoved], hnext⟩

/-- **Draining** is as many advances as it makes. -/
theorem drain (h : AtMove l n s) :
    s.drainMoves = (List.range' n s.drainMoves.length).map l.moved ∧
      AtMove l (n + s.drainMoves.length) s.drain.2 := by
  induction hk : s.remaining using Nat.strongRecOn generalizing n s with
  | ind k ih =>
      obtain ⟨e, s', hadvance, hdrain, hmoves⟩ | ⟨s', hadvance, hdrain, hmoves⟩ |
        ⟨s', e, hadvance, -, hdrain, hmoves⟩ | ⟨s', row, hadvance, -, hdrain, hmoves⟩ :=
        s.drain_cases
      · rw [hmoves, hdrain]
        exact h.drain_once hadvance
      · rw [hmoves, hdrain]
        exact h.drain_once hadvance
      · rw [hmoves, hdrain]
        exact h.drain_once hadvance
      · obtain ⟨hmoved, hnext⟩ := h.advance
        rw [hadvance] at hmoved hnext
        obtain ⟨hrest, hlast⟩ := ih _ (hk ▸ RowSet.remaining_advance hadvance) hnext rfl
        rw [hmoves, hdrain, List.length_cons, List.range'_succ, List.map_cons, ← hmoved]
        refine ⟨congrArg _ hrest, ?_⟩
        rw [Nat.add_comm s'.drainMoves.length 1, ← Nat.add_assoc]
        exact hlast

theorem metadata_drain (s : RowSet κ) : s.drain.2.metadata = s.metadata := by
  induction hk : s.remaining using Nat.strongRecOn generalizing s with
  | ind k ih =>
      have hmetadata := metadata_advance s
      obtain ⟨e, s', hadvance, hdrain, -⟩ | ⟨s', hadvance, hdrain, -⟩ |
        ⟨s', e, hadvance, -, hdrain, -⟩ | ⟨s', row, hadvance, -, hdrain, -⟩ := s.drain_cases
      · rw [hdrain, ← hmetadata, hadvance]
      · rw [hdrain, ← hmetadata, hadvance]
      · rw [hdrain, ← hmetadata, hadvance]
      · rw [hdrain, ← hmetadata, hadvance]
        exact ih _ (hk ▸ RowSet.remaining_advance hadvance) s' rfl

end AtMove

/-! ### Calls on a result -/

namespace LogicalResult

variable {κ : Type} [FiniteCursor κ] {l : RowList} {n : Nat}

/-- **One call** makes the advances that the cursor over the list makes, and keeps to it. -/
theorem perform_query {s : RowSet κ} (h : AtMove l n s) (call : ResultCall) :
    ∃ s', (query s).perform call = query s' ∧ s'.metadata = s.metadata ∧
      (query s).moves call = (List.range' n ((query s).moves call).length).map l.moved ∧
      AtMove l (n + ((query s).moves call).length) s' := by
  cases call with
  | advance =>
      obtain ⟨hmoved, hnext⟩ := h.advance
      refine ⟨s.advance.2, rfl, AtMove.metadata_advance s, ?_, hnext⟩
      simp [moves, LogicalResult.advance, hmoved]
  | drain => exact ⟨s.drain.2, rfl, AtMove.metadata_drain s, h.drain.1, h.drain.2⟩
  | valueAt | valueAs | row => exact ⟨s, rfl, rfl, rfl, h⟩

/-- **Calls** make the advances that the cursor over the list makes, one after another. -/
theorem performAll_query {s : RowSet κ} (h : AtMove l n s) (calls : List ResultCall) :
    ∃ s', (query s).performAll calls = query s' ∧ s'.metadata = s.metadata ∧
      (query s).allMoves calls =
        (List.range' n ((query s).allMoves calls).length).map l.moved ∧
      AtMove l (n + ((query s).allMoves calls).length) s' := by
  induction calls generalizing n s with
  | nil => exact ⟨s, rfl, rfl, rfl, h⟩
  | cons call calls ih =>
      obtain ⟨s₁, hperform, hmetadata, hmoves, hat⟩ := perform_query h call
      obtain ⟨s₂, hrest, hmetadata₂, hmoves₂, hat₂⟩ := ih hat
      refine ⟨s₂, ?_, hmetadata₂.trans hmetadata, ?_, ?_⟩
      · rw [performAll, List.foldl_cons, hperform]
        exact hrest
      · rw [allMoves, hperform, List.length_append, ← List.range'_append_1, List.map_append,
          ← hmoves, ← hmoves₂]
      · rw [allMoves, hperform, List.length_append, ← Nat.add_assoc]
        exact hat₂

/-- A result answers as a cursor over the list does that has been advanced as often. -/
structure Follows (l : RowList) (width : Nat) (moves : List (Except ExecutionError Bool))
    (r : LogicalResult κ) : Prop where
  /-- The advances so far said what those of the cursor over the list say. -/
  moved : moves = (List.range moves.length).map l.moved
  /-- The cells of the row that the advances led to can be read, and no others. -/
  value : ∀ column, Answers (l.cell? width moves.length column) (r.valueAt column)
  /-- They are converted when they are read as values of a type. -/
  converted : ∀ target column, match l.cell? width moves.length column with
    | some cell => r.valueAs target column = match target.convert cell with
      | .ok v => .ok v
      | .error m => .error (.invalidState (.unreadableAs column cell target m))
    | none => ∃ fault, r.valueAs target column = .error (.invalidState fault)
  /-- What is drained is the rows that are left, if all of them can be. -/
  drained : match l.drained? width moves.length with
    | some rows => r.drain.1 = .ok rows
    | none => ∃ e, r.drain.1 = .error e

/-- A row set that stands where the cursor over the list stands answers as it does. -/
theorem follows {s : RowSet κ} {moves : List (Except ExecutionError Bool)}
    (hmoves : moves = (List.range moves.length).map l.moved) (h : AtMove l moves.length s) :
    Follows l s.metadata.columnCount moves (query s) where
  moved := hmoves
  value := h.valueAt
  drained := h.drained
  converted target column := by
    have hcell := h.valueAt column
    cases hc : l.cell? s.metadata.columnCount moves.length column with
    | none =>
        rw [hc] at hcell
        obtain ⟨fault, hfault⟩ := hcell
        exact ⟨fault, by simp [valueAs, LogicalResult.valueAt, hfault, bind, Except.bind]⟩
    | some cell =>
        rw [hc] at hcell
        have hvalue : s.valueAt column = .ok cell := hcell
        simp only [valueAs, LogicalResult.valueAt, hvalue, bind, Except.bind]
        rfl

end LogicalResult

/-- The rows of units one after another, up to the first failure. -/
def RowList.ofUnits (units : List UnitCursor) : RowList :=
  ⟨UnitCursor.rowsOf units, UnitCursor.failureOf? units⟩

/-- **The result of a query is a cursor over a list.** Whatever has been asked of the merged rows of
units, they answer as a cursor over the list of these rows does, up to the first failure, that has
been advanced as often. -/
theorem cursor_follows_list (metadata : QueryMetadata) (units : List UnitCursor)
    (calls : List ResultCall) :
    let start := LogicalResult.query (.ofCursor metadata (MergedCursor.chain (.ofList units)))
    LogicalResult.Follows (.ofUnits units) metadata.columnCount (start.allMoves calls)
      (start.performAll calls) := by
  intro start
  have hvisits := MergedCursor.visits_chain (Concatenation.visits_ofList units)
  have hstart : AtMove (.ofUnits units) 0 (RowSet.ofCursor metadata (MergedCursor.chain
      (.ofList units))) := .start hvisits
  obtain ⟨s, hs, hmetadata, hmoves, hat⟩ := LogicalResult.performAll_query hstart calls
  rw [← List.range_eq_range'] at hmoves
  rw [Nat.zero_add] at hat
  rw [hs]
  have hwidth : s.metadata.columnCount = metadata.columnCount := by rw [hmetadata]; rfl
  exact hwidth ▸ LogicalResult.follows hmoves hat

end ScatterGather
