import ScatterGather.Connection.Strategy
import ScatterGather.Proofs.Cursor
import ScatterGather.Proofs.Cursor.Calls
import ScatterGather.Proofs.Cursor.Visits

/-!
# A cursor that is read into memory

Nothing is assumed here about a cursor but that its rows come to an end: it may stand anywhere, its
rows may have any width, and every call may fail. `RowsLeft c n` says how many rows its calls of
`next` find, and `reading` names the calls that read these over some columns. The main statement is
`buffering_faithful`: loading a cursor fails as these calls do, else it keeps what they answer, and
the rows in memory answer every later call as the cursor would have (`AnswersAlike`). The exception
are rows that `Overflows` finds too wide: the program breaks off before a cell of them is read,
though reading them may fail as any other reading (`overstated_width_overflows`).

For that the two are read side by side. As long as `Abreast` ties them, the cursor delivers the rows
that the memory has ahead, and on a row both show the same cells; one call keeps the tie.
-/

namespace ScatterGather

variable {κ : Type}

/-! ### Calls and their answers -/

/-- What may be asked of a cursor. -/
inductive CursorCall where
  | next
  | value (column : Nat)

/-- The answer to a call. -/
inductive CursorAnswer where
  | moved (answer : Except ExecutionError Bool)
  | read (answer : Except ExecutionError Cell)

/-- The failure that is answered, if one is. -/
def CursorAnswer.failure? : CursorAnswer → Option ExecutionError
  | .moved (.error e) | .read (.error e) => some e
  | .moved (.ok _) | .read (.ok _) => none

namespace CursorCall

/-- The calls that read the first columns of a row. -/
def readRow (width : Nat) : List CursorCall := (List.range width).map .value

/-- The calls that read so many rows over their first columns, one by one, and then ask for one
more. -/
def reading (width : Nat) : Nat → List CursorCall
  | 0 => [.next]
  | n + 1 => .next :: (readRow width ++ reading width n)

end CursorCall

namespace RowCursor

variable [RowCursor κ]

/-- What a cursor answers to calls that are made one after another. -/
def answers : κ → List CursorCall → List CursorAnswer
  | _, [] => []
  | c, .next :: calls => .moved (next c).1 :: answers (next c).2 calls
  | c, .value column :: calls => .read (value c column) :: answers c calls

/-- The first failure that a cursor answers. -/
def firstFailure? (c : κ) (calls : List CursorCall) : Option ExecutionError :=
  (answers c calls).findSome? CursorAnswer.failure?

end RowCursor

open RowCursor CursorCall

/-- A cursor is on a row of which these are the first cells. -/
def Shows [RowCursor κ] (c : κ) (width : Nat) (row : Row) : Prop :=
  (List.range width).map (value c) = row.map .ok

/-- Calls from the first `next` to the first one that finds no row, where on a row its first columns
may be read; the flag says whether the cursor is on a row that it has found. -/
inductive CursorCall.Within [RowCursor κ] (width : Nat) : κ → Bool → List CursorCall → Prop where
  | nothing {c onRow} : Within width c onRow []
  | last {c onRow} : Within width c onRow [.next]
  | next {c c' onRow calls} (h : RowCursor.next c = (.ok true, c'))
    (hrest : Within width c' true calls) : Within width c onRow (.next :: calls)
  | value {c column calls} (h : column < width) (hrest : Within width c true calls) :
    Within width c true (.value column :: calls)

/-- A cursor answers all such calls as another one would. -/
def AnswersAlike {κ' : Type} [RowCursor κ] [RowCursor κ'] (width : Nat) (c : κ) (c' : κ') : Prop :=
  ∀ calls, Within width c false calls → answers c' calls = answers c calls

/-- A cursor's calls of `next` find so many rows, and then something else. -/
inductive RowsLeft [RowCursor κ] : κ → Nat → Prop where
  | nothing {c c' answer} (h : next c = (answer, c')) (ha : answer ≠ .ok true) : RowsLeft c 0
  | row {c c' n} (h : next c = (.ok true, c')) (hrest : RowsLeft c' n) : RowsLeft c (n + 1)

/-- Rows are left, and so wide that there is no room for one. -/
def Overflows (width n : Nat) : Prop := MemoryCursor.widthLimit ≤ width ∧ 0 < n

instance (width n : Nat) : Decidable (Overflows width n) :=
  inferInstanceAs (Decidable (_ ∧ _))

/-- What is loaded of a cursor with `n` rows left. -/
structure Buffered [RowCursor κ] [Columns κ] (source : κ) (n : Nat) (m : MemoryCursor) : Prop where
  /-- It stands before the first row. -/
  start : m = .ofRows (Columns.columnCount source) m.ahead
  length_eq : m.ahead.length = n
  /-- Each row has the first cells of the row that the source would have been on. -/
  rows : ∀ (k : Nat) (row : Row), m.ahead[k]? = some row →
    Shows (after source (k + 1)) (Columns.columnCount source) row
  /-- So whole rows are cut to the columns there are. -/
  cut : ∀ full failure, Visits source full failure →
    failure = none ∧ m.ahead = full.map (·.take (Columns.columnCount source))
  alike : AnswersAlike (Columns.columnCount source) source m
  /-- It can be loaded again, and is the same. -/
  again : MemoryCursor.load m = .ok m

/-- What a cursor over the rows of a unit is that is kept in its place. -/
structure Wrapped (unit w : UnitCursor) : Prop where
  columnCount_eq : Columns.columnCount w = Columns.columnCount unit
  alike : AnswersAlike (Columns.columnCount unit) unit w
  /-- It can be wrapped again, and is the same. -/
  again : ConnectionStrategy.connectionStrictly.retain w = .ok w

section

variable {width n column : Nat} {c c' : κ} {row : Row} {rows : List Row} {e : ExecutionError}

/-! ### Reading row by row -/

section

variable [RowCursor κ]

theorem shows_iff : Shows c width row ↔ values c width = .ok row := mapM_eq_ok.symm

theorem Shows.length_eq (h : Shows c width row) : row.length = width := by
  simpa using (congrArg List.length h).symm

/-- On a row its first cells are read. -/
theorem Shows.value_eq (h : Shows c width row) (hcolumn : column < width) :
    ∃ cell, row[column]? = some cell ∧ value c column = .ok cell := by
  have hread := congrArg (·[column]?) h
  simp only [List.getElem?_map, List.getElem?_range hcolumn, Option.map_some] at hread
  obtain ⟨cell, hcell, heq⟩ := Option.map_eq_some_iff.mp hread.symm
  exact ⟨cell, hcell, heq.symm⟩

/-- The first cells of a whole row. -/
theorem Shows.eq_take (h : Shows c width row) {full : Row} (hon : StandsOn c full) :
    row = full.take width := by
  apply List.ext_getElem?
  intro column
  rw [List.getElem?_take]
  split
  · next hcolumn =>
      obtain ⟨cell, hcell, heq⟩ := h.value_eq hcolumn
      have hanswer := hon column
      rw [heq] at hanswer
      unfold Answers at hanswer
      split at hanswer
      · next cell' hfull =>
          cases hanswer
          rw [hcell, hfull]
      · obtain ⟨_, hfault⟩ := hanswer
        cases hfault
  · next hcolumn =>
      exact List.getElem?_eq_none (h.length_eq ▸ Nat.not_lt.mp hcolumn)

theorem firstFailure?_next (c : κ) (calls : List CursorCall) :
    firstFailure? c (.next :: calls) =
      match (next c).1 with
      | .error e => some e
      | .ok _ => firstFailure? (next c).2 calls := by
  unfold firstFailure?
  rw [answers, List.findSome?_cons]
  cases (next c).1 <;> rfl

/-- Reading columns leaves a cursor where it is, and fails as the first of them does. -/
theorem firstFailure?_columns (c : κ) (columns : List Nat) (calls : List CursorCall) :
    firstFailure? c (columns.map .value ++ calls) =
      match columns.mapM (value c) with
      | .error e => some e
      | .ok _ => firstFailure? c calls := by
  induction columns with
  | nil => rfl
  | cons column columns ih =>
      unfold firstFailure? at ih ⊢
      rw [List.map_cons, List.cons_append, answers, List.findSome?_cons, ih, List.mapM_cons]
      cases value c column with
      | error e => rfl
      | ok cell => cases columns.mapM (value c) <;> rfl

theorem firstFailure?_readRow (c : κ) (width : Nat) (calls : List CursorCall) :
    firstFailure? c (readRow width ++ calls) =
      match values c width with
      | .error e => some e
      | .ok _ => firstFailure? c calls :=
  firstFailure?_columns c (List.range width) calls

/-- As many rows are delivered as are left. -/
theorem RowsLeft.length_eq (h : RowsLeft c n) (hd : Delivers width c rows) : rows.length = n := by
  induction h generalizing rows with
  | nothing h ha =>
      cases hd with
      | finished => rfl
      | visited h' =>
          cases h.symm.trans h'
          exact absurd rfl ha
  | row h _ ih =>
      cases hd with
      | finished h' => cases h.symm.trans h'
      | visited h' _ hrest =>
          cases h.symm.trans h'
          rw [List.length_cons, ih hrest]

/-- A cursor has the rows left that it delivers. -/
theorem Delivers.rowsLeft (h : Delivers width c rows) : RowsLeft c rows.length := by
  induction h with
  | finished h => exact .nothing h nofun
  | visited h _ _ ih => exact .row h ih

/-- Of each row that is delivered the first cells are shown. -/
theorem Delivers.shows (h : Delivers width c rows) {k : Nat} (hk : rows[k]? = some row) :
    Shows (after c (k + 1)) width row := by
  induction h generalizing k with
  | finished => cases hk
  | @visited c c' row' rest h hv _ ih =>
      have hc' : after c 1 = c' := congrArg Prod.snd h
      cases k with
      | zero =>
          cases hk
          exact hc' ▸ shows_iff.mpr hv
      | succ k =>
          rw [Nat.add_comm (k + 1) 1, ← after_after, hc']
          exact ih hk

theorem Delivers.length_row (h : Delivers width c rows) : ∀ row ∈ rows, row.length = width := by
  intro row hrow
  obtain ⟨k, hk⟩ := List.mem_iff_getElem?.mp hrow
  exact (h.shows hk).length_eq

/-- What is delivered are the rows that are visited, cut to the columns that are read. -/
theorem Delivers.cut (h : Delivers width c rows) {full : List Row}
    {failure : Option ExecutionError} (hvisits : Visits c full failure) :
    failure = none ∧ rows = full.map (·.take width) := by
  induction h generalizing full failure with
  | finished h =>
      cases hvisits with
      | finished => exact ⟨rfl, rfl⟩
      | failed h' => cases h.symm.trans h'
      | visited h' => cases h.symm.trans h'
  | @visited c c' row rest h hv _ ih =>
      cases hvisits with
      | finished h' => cases h.symm.trans h'
      | failed h' => cases h.symm.trans h'
      | @visited _ _ row' full' _ h' hon hrest =>
          cases h.symm.trans h'
          obtain ⟨rfl, rfl⟩ := ih hrest
          refine ⟨rfl, ?_⟩
          rw [List.map_cons, (shows_iff.mpr hv).eq_take hon]

/-! ### Side by side -/

/-- The rows in memory are read side by side with the cursor that they were read from. -/
structure Abreast (width : Nat) (c : κ) (onRow : Bool) (m : MemoryCursor) : Prop where
  ahead : Delivers width c m.ahead
  current : onRow = true → ∃ row, m.current = some row ∧ Shows c width row

/-- On a row both answer alike. -/
theorem Abreast.value_eq {m : MemoryCursor} (h : Abreast width c true m) (hcolumn : column < width) :
    value m column = value c column := by
  obtain ⟨row, hrow, hshows⟩ := h.current rfl
  obtain ⟨cell, hcell, heq⟩ := hshows.value_eq hcolumn
  rw [heq]
  show m.value column = .ok cell
  rw [MemoryCursor.value, hrow]
  simp only [hcell]

/-- From row to row they go on side by side. -/
theorem Abreast.next {m : MemoryCursor} {onRow : Bool} (h : Abreast width c onRow m) :
    (next m).1 = (next c).1 ∧ ((next c).1 = .ok true → Abreast width (next c).2 true (next m).2) := by
  obtain ⟨columnCount, current, ahead⟩ := m
  cases h.ahead with
  | finished hnext =>
      rw [hnext]
      exact ⟨rfl, nofun⟩
  | visited hnext hv hrest =>
      rw [hnext]
      exact ⟨rfl, fun _ => ⟨hrest, fun _ => ⟨_, rfl, shows_iff.mpr hv⟩⟩⟩

/-- So all answers are the same. -/
theorem Abreast.answers_eq {m : MemoryCursor} {onRow : Bool} {calls : List CursorCall}
    (h : Abreast width c onRow m) (hcalls : Within width c onRow calls) :
    answers m calls = answers c calls := by
  induction hcalls generalizing m with
  | nothing => rfl
  | last => rw [answers, answers, h.next.1, answers, answers]
  | next hnext _ ih =>
      have hmove := h.next
      rw [hnext] at hmove
      rw [answers, answers, hnext, hmove.1, ih (hmove.2 rfl)]
  | value hcolumn _ ih => rw [answers, answers, h.value_eq hcolumn, ih h]

/-- A cursor that does not break answers as the memory that it holds. -/
theorem answers_ofMemory (m : MemoryCursor) (calls : List CursorCall) :
    answers (UnitCursor.ofMemory m) calls = answers m calls := by
  induction calls generalizing m with
  | nil => rfl
  | cons call calls ih =>
      cases call with
      | next => exact congrArg (CursorAnswer.moved (next m).1 :: ·) (ih (next m).2)
      | value column => exact congrArg (CursorAnswer.read (value m column) :: ·) (ih m)

end

/-! ### Loading -/

variable [FiniteCursor κ]

theorem exists_rowsLeft (c : κ) : ∃ n, RowsLeft c n := by
  induction hr : FiniteCursor.remaining c using Nat.strongRecOn generalizing c with
  | ind r ih =>
      subst hr
      by_cases hnext : (next c).1 = .ok true
      · have h : next c = (.ok true, (next c).2) := Prod.ext hnext rfl
        obtain ⟨n, hn⟩ := ih _ (FiniteCursor.remaining_lt h) _ rfl
        exact ⟨n + 1, .row h hn⟩
      · exact ⟨0, .nothing rfl hnext⟩

/-- Reading the rows one by one fails with the first failure that is answered. -/
theorem RowsLeft.rows_eq_error (h : RowsLeft c n) :
    FiniteCursor.rows width c = .error e ↔ firstFailure? c (reading width n) = some e := by
  induction h with
  | @nothing c c' answer h ha =>
      rw [reading, firstFailure?_next, h]
      rcases answer with e' | _ | _
      · simp [FiniteCursor.rows_of_failed h]
      · simp [FiniteCursor.rows_of_finished h, firstFailure?, answers]
      · exact absurd rfl ha
  | @row c c' n h hrest ih =>
      rw [reading, firstFailure?_next, h, FiniteCursor.rows_of_next h]
      simp only
      rw [firstFailure?_readRow]
      cases values c' width with
      | error e' => simp [bind, Except.bind]
      | ok row =>
          simp only
          rw [← ih]
          cases FiniteCursor.rows width c' <;> simp [bind, Except.bind, pure, Except.pure]

/-- Rows that can be read are delivered. -/
theorem RowsLeft.delivers (h : RowsLeft c n) (hrows : FiniteCursor.rows width c = .ok rows) :
    Delivers width c rows := by
  induction h generalizing rows with
  | @nothing c c' answer h ha =>
      rcases answer with e' | _ | _
      · cases (FiniteCursor.rows_of_failed h).symm.trans hrows
      · cases (FiniteCursor.rows_of_finished h).symm.trans hrows
        exact .finished h
      · exact absurd rfl ha
  | @row c c' n h hrest ih =>
      rw [FiniteCursor.rows_of_next h] at hrows
      cases hv : values c' width with
      | error e' =>
          rw [hv] at hrows
          cases hrows
      | ok row =>
          cases hr : FiniteCursor.rows width c' with
          | error e' =>
              rw [hv, hr] at hrows
              cases hrows
          | ok rest =>
              rw [hv, hr] at hrows
              cases hrows
              exact .visited h hv (ih hr)

/-! ### Room for the rows -/

open MemoryCursor (widthLimit reserve loadRows)

/-- A row that has no room is not read. -/
theorem MemoryCursor.loadRows_of_overflow (h : RowCursor.next c = (.ok true, c'))
    (hwidth : widthLimit ≤ width) : loadRows width c = .error .capacityOverflow := by
  unfold loadRows
  split
  · next heq => cases h.symm.trans heq
  · next heq => cases h.symm.trans heq
  · rw [reserve, if_neg (Nat.not_lt.mpr hwidth)]
    rfl

/-- A row that has room is read before those behind it. -/
theorem MemoryCursor.loadRows_of_next (h : RowCursor.next c = (.ok true, c'))
    (hwidth : width < widthLimit) : loadRows width c = (do
      let row ← (values c' width).mapError .failed
      let rest ← loadRows width c'
      return row :: rest) := by
  rw [loadRows]
  split
  · next heq => cases h.symm.trans heq
  · next heq => cases h.symm.trans heq
  · next heq =>
      cases h.symm.trans heq
      rw [reserve, if_pos hwidth]
      rfl

/-- Where there is no row nothing is asked for. -/
theorem MemoryCursor.loadRows_of_nothing {answer : Except ExecutionError Bool}
    (h : RowCursor.next c = (answer, c')) (ha : answer ≠ .ok true) :
    loadRows width c = (FiniteCursor.rows width c).mapError .failed := by
  rw [loadRows]
  split
  · next heq =>
      rw [FiniteCursor.rows_of_failed heq]
      rfl
  · next heq =>
      rw [FiniteCursor.rows_of_finished heq]
      rfl
  · next heq =>
      cases h.symm.trans heq
      exact absurd rfl ha

/-- Where there is room, rows are loaded as they are read. -/
theorem RowsLeft.loadRows_eq (h : RowsLeft c n) (hroom : ¬Overflows width n) :
    loadRows width c = (FiniteCursor.rows width c).mapError .failed := by
  induction h with
  | nothing h ha => exact MemoryCursor.loadRows_of_nothing h ha
  | @row c c' n h hrest ih =>
      have hwidth : width < widthLimit :=
        Nat.lt_of_not_le fun hle => hroom ⟨hle, Nat.succ_pos n⟩
      have htail := ih fun hover => hroom ⟨hover.1, Nat.succ_pos n⟩
      rw [MemoryCursor.loadRows_of_next h hwidth, htail, FiniteCursor.rows_of_next h]
      cases values c' width with
      | error e => rfl
      | ok row => cases FiniteCursor.rows width c' <;> rfl

section

variable [Columns κ] {m : MemoryCursor}

/-- Loading breaks off where rows are too wide, and else comes to what reading them does. -/
theorem RowsLeft.load_eq (h : RowsLeft c n) : MemoryCursor.load c =
    if Overflows (Columns.columnCount c) n then .error .capacityOverflow
    else (MemoryCursor.read c).mapError .failed := by
  rw [MemoryCursor.load, MemoryCursor.read]
  split
  · next hover =>
      cases h with
      | nothing => exact absurd hover.2 (Nat.lt_irrefl 0)
      | row hnext =>
          rw [MemoryCursor.loadRows_of_overflow hnext hover.1]
          rfl
  · next hroom =>
      rw [h.loadRows_eq hroom]
      cases FiniteCursor.rows (Columns.columnCount c) c <;> rfl

/-- Reading into memory fails as reading the rows does. -/
theorem MemoryCursor.read_eq_error_iff : MemoryCursor.read c = .error e ↔
    FiniteCursor.rows (Columns.columnCount c) c = .error e := by
  rw [MemoryCursor.read]
  cases FiniteCursor.rows (Columns.columnCount c) c <;> simp [bind, Except.bind, pure, Except.pure]

/-- What is read into memory are the rows that are read. -/
theorem MemoryCursor.read_eq_ok_iff : MemoryCursor.read c = .ok m ↔
    ∃ rows, FiniteCursor.rows (Columns.columnCount c) c = .ok rows ∧
      .ofRows (Columns.columnCount c) rows = m := by
  rw [MemoryCursor.read]
  cases FiniteCursor.rows (Columns.columnCount c) c <;> simp [bind, Except.bind, pure, Except.pure]

/-- Rows with room are loaded exactly if they are read. -/
theorem RowsLeft.load_eq_ok_iff (h : RowsLeft c n) : MemoryCursor.load c = .ok m ↔
    ¬Overflows (Columns.columnCount c) n ∧ MemoryCursor.read c = .ok m := by
  rw [h.load_eq]
  split
  · next hover => simp [hover]
  · next hroom => cases MemoryCursor.read c <;> simp [Except.mapError, hroom]

/-- Loading fails exactly as reading does, where there is room. -/
theorem RowsLeft.load_eq_failed_iff (h : RowsLeft c n) :
    MemoryCursor.load c = .error (.failed e) ↔
      ¬Overflows (Columns.columnCount c) n ∧ MemoryCursor.read c = .error e := by
  rw [h.load_eq]
  split
  · next hover => simp [hover]
  · next hroom => cases MemoryCursor.read c <;> simp [Except.mapError, hroom]

/-- Loading breaks off exactly where rows are too wide. -/
theorem RowsLeft.load_eq_overflow_iff (h : RowsLeft c n) :
    MemoryCursor.load c = .error .capacityOverflow ↔ Overflows (Columns.columnCount c) n := by
  rw [h.load_eq]
  split
  · next hover => simp [hover]
  · next hroom => cases MemoryCursor.read c <;> simp [Except.mapError, hroom]

/-- What the cursor delivers is loaded, where there is room. -/
theorem Delivers.load_eq (h : Delivers (Columns.columnCount c) c rows)
    (hroom : ¬Overflows (Columns.columnCount c) rows.length) :
    MemoryCursor.load c = .ok (.ofRows (Columns.columnCount c) rows) :=
  h.rowsLeft.load_eq_ok_iff.mpr ⟨hroom, h.read_eq⟩

/-- What is loaded keeps the rows that are left. -/
theorem RowsLeft.buffered (h : RowsLeft c n) (hm : MemoryCursor.load c = .ok m) :
    Buffered c n m := by
  obtain ⟨hroom, hread⟩ := h.load_eq_ok_iff.mp hm
  obtain ⟨rows, hrows, rfl⟩ := MemoryCursor.read_eq_ok_iff.mp hread
  have hdelivers := h.delivers hrows
  have hlength : rows.length = n := h.length_eq hdelivers
  refine ⟨rfl, hlength, fun k row => hdelivers.shows, fun full failure => hdelivers.cut,
    fun calls hcalls => ?_, ?_⟩
  · have habreast : Abreast (Columns.columnCount c) c false
        (.ofRows (Columns.columnCount c) rows) := ⟨hdelivers, nofun⟩
    exact habreast.answers_eq hcalls
  · exact (MemoryCursor.delivers (c := .ofRows (Columns.columnCount c) rows)
      hdelivers.length_row).load_eq (hlength ▸ hroom)

theorem Buffered.length_row {n : Nat} (h : Buffered c n m) :
    ∀ row ∈ m.ahead, row.length = Columns.columnCount c := by
  intro row hrow
  obtain ⟨k, hk⟩ := List.mem_iff_getElem?.mp hrow
  exact (h.rows k row hk).length_eq

end

end

/-- What is kept for the rows of a unit is what is loaded of them. -/
theorem Buffered.wrapped {unit : UnitCursor} {n : Nat} {m : MemoryCursor} (h : Buffered unit n m)
    (hroom : ¬Overflows (Columns.columnCount unit) n) : Wrapped unit (.ofMemory m) := by
  have hcount : m.columnCount = Columns.columnCount unit := by
    rw [h.start]
    rfl
  have hload : MemoryCursor.load (UnitCursor.ofMemory m) = .ok m := by
    have hdelivers := UnitCursor.delivers (h.length_row)
    rw [← hcount] at hdelivers
    rw [← hcount, ← h.length_eq] at hroom
    rw [Delivers.load_eq hdelivers hroom]
    exact congrArg Except.ok (h.start ▸ rfl)
  refine ⟨hcount, fun calls hcalls => ?_, ?_⟩
  · rw [answers_ofMemory, h.alike calls hcalls]
  · show UnitCursor.ofMemory <$> MemoryCursor.load (UnitCursor.ofMemory m) = _
    rw [hload]
    rfl

/-- **Reading a cursor into memory is faithful** where there is room for its rows, and so is what is
kept in the place of the rows of a unit. Where there is none the program breaks off. -/
theorem buffering_faithful [FiniteCursor κ] [Columns κ] (source : κ) :
    (∃ n, RowsLeft source n ∧
      (MemoryCursor.load source = .error .capacityOverflow ↔
        Overflows (Columns.columnCount source) n) ∧
      (∀ e, MemoryCursor.load source = .error (.failed e) ↔
        ¬Overflows (Columns.columnCount source) n ∧
          firstFailure? source (reading (Columns.columnCount source) n) = some e) ∧
      ∀ m, MemoryCursor.load source = .ok m → Buffered source n m) ∧
    ∀ unit : UnitCursor,
      (∀ failure, ConnectionStrategy.connectionStrictly.retain unit = .error failure ↔
        MemoryCursor.load unit = .error failure) ∧
      ∀ w, ConnectionStrategy.connectionStrictly.retain unit = .ok w →
        Wrapped unit w ∧ ConnectionStrategy.connectionStrictly.wrap unit = .ok w := by
  obtain ⟨n, hn⟩ := exists_rowsLeft source
  refine ⟨⟨n, hn, hn.load_eq_overflow_iff, fun e => ?_, fun m => hn.buffered⟩, fun unit => ?_⟩
  · rw [hn.load_eq_failed_iff, MemoryCursor.read_eq_error_iff, hn.rows_eq_error]
  · have hretain : ConnectionStrategy.connectionStrictly.retain unit =
        UnitCursor.ofMemory <$> MemoryCursor.load unit := rfl
    obtain ⟨n, hn⟩ := exists_rowsLeft unit
    rw [hretain]
    cases hload : MemoryCursor.load unit with
    | error failure => exact ⟨fun failure' => by simp, nofun⟩
    | ok m =>
        obtain ⟨hroom, hread⟩ := hn.load_eq_ok_iff.mp hload
        refine ⟨fun failure => ⟨nofun, nofun⟩, ?_⟩
        rintro w ⟨⟩
        refine ⟨(hn.buffered hload).wrapped hroom, ?_⟩
        show UnitCursor.ofMemory <$> MemoryCursor.read unit = _
        rw [hread]
        rfl

/-- A row that is narrower than it is read is left where it ends. -/
theorem MemoryCursor.values_of_narrow {width columnCount : Nat} {row : Row} {ahead : List Row}
    (h : row.length < width) : values (MemoryCursor.mk columnCount (some row) ahead) width =
      .error (.invalidState (.columnOutOfRange row.length row.length)) := by
  rw [RowCursor.values, mapM_eq_error]
  refine ⟨row.length, row.length, List.getElem?_range h, ?_, fun j column hj hcolumn => ?_⟩
  · simp [RowCursor.value, MemoryCursor.value]
  · rw [List.getElem?_range (Nat.lt_trans hj h)] at hcolumn
    cases hcolumn
    exact ⟨row[j], by simp [RowCursor.value, MemoryCursor.value, List.getElem?_eq_getElem hj]⟩

/-- A row of one cell that is told to have 2^61. -/
def overstated : MemoryCursor := .ofRows 0x2000000000000000 [[.integer (.ofUInt64 1)]]

/-- Reading it row by row fails at its second cell, and loading it breaks off all the same. -/
theorem overstated_width_overflows :
    RowsLeft overstated 1 ∧ MemoryCursor.load overstated = .error .capacityOverflow ∧
      firstFailure? overstated (reading (Columns.columnCount overstated) 1) =
        some (.invalidState (.columnOutOfRange 1 1)) := by
  have hleft : RowsLeft overstated 1 := .row rfl (.nothing rfl nofun)
  refine ⟨hleft, hleft.load_eq_overflow_iff.mpr (by decide), ?_⟩
  rw [reading, firstFailure?_next]
  show firstFailure? (MemoryCursor.mk 0x2000000000000000 (some [.integer (.ofUInt64 1)]) []) _ = _
  rw [firstFailure?_readRow, MemoryCursor.values_of_narrow (by decide)]
  rfl

end ScatterGather
