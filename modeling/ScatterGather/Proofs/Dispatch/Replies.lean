import ScatterGather.Connection.Strategy
import ScatterGather.Proofs.Cursor
import ScatterGather.Proofs.Forward.Verdict

/-!
# What a client sees of the replies to a statement

`settled` is the response that the replies to the units of a statement make when each of them is
taken as it is, in dispatch order. `Agreed` says without cursors what a client sees of them: the
first error, or the rows of all units one after another, or their counts taken together. For replies
whose rows fit their metadata (`Regular`), merging the response by concatenation and reading it to
its end gives just that (`agreed_observe`).
-/

namespace ScatterGather

/-! ### Observations -/

/-- What a client sees of a statement that succeeds. -/
inductive Observation where
  | rows (metadata : QueryMetadata) (rows : List Row)
  | counts (summary : UpdateSummary)

/-- What a client sees of a response: its units are merged, and its rows read to their end. -/
def observe (strategy : MergeStrategy) (statement : Statement)
    (response : Except ExecutionError Response) : Except ExecutionError Observation := do
  match ← (← response).merge strategy statement with
  | .query rows => return .rows rows.metadata (← rows.drain.1)
  | .update summary => return .counts summary

namespace Reply

/-- The rows of a reply. -/
def body : Reply → List Row
  | .rows _ body => body
  | _ => []

/-- The counts of a reply. -/
def counts? : Reply → Option UpdateOutcome
  | .ok affectedRows lastInsertId => some ⟨affectedRows, lastInsertId⟩
  | _ => none

/-- The rows of a reply are all of one width, which is that of its metadata when it carries any. -/
def Rectangular : Reply → Prop
  | .rows metadata body => ∃ width, (∀ row ∈ body, row.length = width) ∧
      ∀ m, metadata = some m → m.columnCount = width
  | _ => True

end Reply

/-- The rows of every reply fit its metadata; and when the first unit is answered with rows, they
come with metadata, which the rows of all units fit. -/
structure Regular (units : List PhysicalUnit) (reply : PhysicalUnit → Reply) : Prop where
  rectangular : ∀ u ∈ units, (reply u).Rectangular
  described : ∀ u ∈ units, u.index = 0 → ∀ metadata body, reply u = .rows metadata body →
    ∃ m, metadata = some m ∧ ∀ v ∈ units, ∀ row ∈ (reply v).body, row.length = m.columnCount

/-- What a client sees of the replies to the units of a statement. -/
inductive Agreed (statement : Statement) (units : List PhysicalUnit)
    (reply : PhysicalUnit → Reply) : Except ExecutionError Observation → Prop where
  /-- The first error in dispatch order, of the data source of its unit. -/
  | failed {u cause} (hu : u ∈ units) (he : reply u = .error cause)
    (hfirst : ∀ v ∈ units, v.index < u.index → ∀ c, reply v ≠ .error c) :
    Agreed statement units reply (.error (.driver u.dataSource cause))
  /-- The rows of all units in dispatch order, under the metadata of the first one. -/
  | rows {u metadata body} (hok : ∀ v ∈ units, ∀ c, reply v ≠ .error c) (hu : u ∈ units)
    (h0 : u.index = 0) (hr : reply u = .rows (some metadata) body) :
    Agreed statement units reply (.ok (.rows metadata (units.flatMap fun v => (reply v).body)))
  /-- The counts of all units that have any, taken together. -/
  | counts {u affectedRows lastInsertId} (hok : ∀ v ∈ units, ∀ c, reply v ≠ .error c)
    (hu : u ∈ units) (h0 : u.index = 0) (hr : reply u = .ok affectedRows lastInsertId) :
    Agreed statement units reply
      (.ok (.counts (statement.kind.summarise (units.filterMap fun v => (reply v).counts?))))

/-! ### The response that replies make -/

/-- What a reply means for its unit. -/
def settleUnit (reply : PhysicalUnit → Reply) (u : PhysicalUnit) : Except ExecutionError Success :=
  (reply u).toOutcome.classify u.dataSource

/-- The response that the replies to units in dispatch order make. -/
def settled (units : List PhysicalUnit) (reply : PhysicalUnit → Reply) :
    Except ExecutionError Response :=
  units.mapM (settleUnit reply) >>= Response.ofUnits

section

variable {statement : Statement} {units : List PhysicalUnit} {reply : PhysicalUnit → Reply}
  {outcomes : List Success}

theorem settleUnit_eq_ok {u : PhysicalUnit} {x : Success} :
    settleUnit reply u = .ok x ↔ (reply u).toOutcome = x.toOutcome :=
  Outcome.classify_eq_ok

theorem settleUnit_eq_error {u : PhysicalUnit} {e : ExecutionError} :
    settleUnit reply u = .error e ↔ ∃ cause, reply u = .error cause ∧
      e = .driver u.dataSource cause := by
  rw [settleUnit, Outcome.classify_eq_error]
  simp only [Reply.toOutcome_eq_error]

/-- A unit whose reply means a success was not answered with an error. -/
theorem reply_ne_error {u : PhysicalUnit} {x : Success}
    (h : (reply u).toOutcome = x.toOutcome) (cause : DriverCause) : reply u ≠ .error cause := by
  intro he
  rw [he] at h
  exact x.toOutcome_ne_error cause h.symm

/-- What the replies to units mean, when none of them is an error. -/
def Answered (reply : PhysicalUnit → Reply) : List PhysicalUnit → List Success → Prop :=
  List.Forall₂ fun u x => (reply u).toOutcome = x.toOutcome

/-- Units that all succeed are answered with their outcomes. -/
theorem mapM_settleUnit_eq_ok :
    units.mapM (settleUnit reply) = .ok outcomes ↔ Answered reply units outcomes := by
  rw [mapM_eq_ok, ← List.forall₂_eq_eq_eq, List.forall₂_map_left_iff, List.forall₂_map_right_iff,
    Answered]
  simp only [settleUnit_eq_ok]

/-- Without an error no unit is answered with one. -/
theorem Answered.ne_error (h : Answered reply units outcomes) {u : PhysicalUnit} (hu : u ∈ units)
    (cause : DriverCause) : reply u ≠ .error cause := by
  induction h with
  | nil => cases hu
  | cons hx _ ih =>
      rcases List.mem_cons.mp hu with rfl | hu
      · exact reply_ne_error hx cause
      · exact ih hu

/-- The counts of units are those of their outcomes. -/
theorem Answered.counts_eq (h : Answered reply units outcomes) :
    outcomes.filterMap Success.update? = units.filterMap fun u => (reply u).counts? := by
  induction h with
  | nil => rfl
  | @cons u x units outcomes hx _ ih =>
      rw [List.filterMap_cons, List.filterMap_cons, ih]
      have hhead : x.update? = (reply u).counts? := by
        cases hr : reply u <;> rw [hr] at hx <;> cases x <;> cases hx <;> rfl
      rw [hhead]

/-- The cursors of units deliver their rows, when these are as wide as they are read. -/
theorem Answered.delivers (h : Answered reply units outcomes) {width : Nat}
    (hw : ∀ u ∈ units, ∀ row ∈ (reply u).body, row.length = width) :
    ∃ rows, List.Forall₂ (Delivers width)
        ((outcomes.filterMap Success.query?).map (·.rows)) rows ∧
      rows.flatten = units.flatMap fun u => (reply u).body := by
  induction h with
  | nil => exact ⟨[], .nil, rfl⟩
  | @cons u x units outcomes hx _ ih =>
      obtain ⟨hu, hw⟩ := List.forall_mem_cons.mp hw
      obtain ⟨rows, hrows, heq⟩ := ih hw
      cases hr : reply u with
      | error cause => exact absurd hr (reply_ne_error hx cause)
      | ok affectedRows lastInsertId =>
          rw [hr] at hx
          cases x <;> cases hx
          refine ⟨rows, hrows, ?_⟩
          simp [heq, hr, Reply.body]
      | rows metadata body =>
          rw [hr] at hx hu
          cases x <;> cases hx
          refine ⟨body :: rows, .cons (UnitCursor.delivers hu) hrows, ?_⟩
          simp [heq, hr, Reply.body]

/-- When the first unit is answered with rows and metadata, the response has the rows of all units
that are. -/
theorem Answered.ofUnits_of_rows {u : PhysicalUnit} {rest : List PhysicalUnit}
    (h : Answered reply (u :: rest) outcomes) {m : QueryMetadata} {body : List Row}
    (hr : reply u = .rows (some m) body) :
    Response.ofUnits outcomes =
      .ok (.query m ((outcomes.filterMap Success.query?).map (·.rows))) := by
  cases h with
  | @cons _ x _ outcomes hx _ =>
      rw [hr] at hx
      cases x <;> cases hx
      simp [Response.ofUnits, Success.query?]

/-- When the first unit is answered with counts, the response has the counts of all units that
are. -/
theorem Answered.ofUnits_of_counts {u : PhysicalUnit} {rest : List PhysicalUnit}
    (h : Answered reply (u :: rest) outcomes) {affectedRows lastInsertId : UInt64}
    (hr : reply u = .ok affectedRows lastInsertId) :
    Response.ofUnits outcomes =
      .ok (.update ((u :: rest).filterMap fun v => (reply v).counts?)) := by
  rw [← h.counts_eq]
  cases h with
  | @cons _ x _ outcomes hx _ =>
      rw [hr] at hx
      cases x <;> cases hx
      rfl

/-- A client sees of a response of rows what its cursors deliver one after another. -/
theorem observe_rows {metadata : QueryMetadata} {cursors : List UnitCursor} {rows : List (List Row)}
    (h : List.Forall₂ (Delivers metadata.columnCount) cursors rows) :
    observe .concatenate statement (.ok (.query metadata cursors)) =
      .ok (.rows metadata rows.flatten) := by
  have hdrain : (RowSet.ofCursor metadata (MergedCursor.chain (.ofList cursors))).drain.1 =
      .ok rows.flatten :=
    (MergedCursor.delivers_chain (Concatenation.delivers_ofList h)).drain_eq nofun
  have hobserve : observe .concatenate statement (.ok (.query metadata cursors)) = do
      return .rows metadata
        (← (RowSet.ofCursor metadata (MergedCursor.chain (.ofList cursors))).drain.1) := rfl
  rw [hobserve, hdrain]
  rfl

/-- **What a client sees of replies** whose rows fit their metadata. -/
theorem agreed_observe (hne : units ≠ []) (hidx : units.map (·.index) = List.range units.length)
    (h : Regular units reply) :
    Agreed statement units reply (observe .concatenate statement (settled units reply)) := by
  unfold settled
  cases hm : units.mapM (settleUnit reply) with
  | error e =>
      obtain ⟨i, u, hu, he, hbefore⟩ := mapM_eq_error.mp hm
      obtain ⟨cause, hc, rfl⟩ := settleUnit_eq_error.mp he
      refine .failed (List.mem_of_getElem? hu) hc ?_
      intro v hv hlt
      obtain ⟨j, hj⟩ := List.getElem?_of_mem hv
      rw [key_eq_of_getElem? (·.index) hidx hu, key_eq_of_getElem? (·.index) hidx hj] at hlt
      obtain ⟨x, hx⟩ := hbefore j v hlt hj
      exact reply_ne_error (settleUnit_eq_ok.mp hx)
  | ok outcomes =>
      have ha : Answered reply units outcomes := mapM_settleUnit_eq_ok.mp hm
      have hok : ∀ v ∈ units, ∀ c, reply v ≠ .error c := fun v hv => ha.ne_error hv
      obtain ⟨u, rest, rfl⟩ := List.exists_cons_of_ne_nil hne
      have hu : u ∈ u :: rest := List.mem_cons_self ..
      have h0 : u.index = 0 := key_eq_of_getElem? PhysicalUnit.index hidx (i := 0) rfl
      have hbind : (Except.ok outcomes >>= Response.ofUnits) = Response.ofUnits outcomes := rfl
      rw [hbind]
      cases hr : reply u with
      | error cause => exact absurd hr (hok u hu cause)
      | ok affectedRows lastInsertId =>
          rw [ha.ofUnits_of_counts hr]
          exact .counts hok hu h0 hr
      | rows metadata body =>
          obtain ⟨m, rfl, hw⟩ := h.described u hu h0 metadata body hr
          obtain ⟨rows, hrows, heq⟩ := ha.delivers hw
          rw [ha.ofUnits_of_rows hr, observe_rows hrows, heq]
          exact .rows hok hu h0 hr

end

end ScatterGather
