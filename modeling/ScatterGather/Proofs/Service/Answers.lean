import ScatterGather.Proofs.Service.Counters

/-!
# Failed statements as they are answered and as they are counted

A statement that has returned is answered with its counts or its rows, or with its failure. A result
with rows can fail even then, while its rows are read into the answer: a cursor that breaks, or a
row that is narrower than the metadata. Such a failure is answered like every other, and is not
counted (`Service.failures_counted_but_in_reading`). So the counter of failures grows by the number
of requests that are answered with a failure as long as no row fails to be read, and only then.
-/

namespace ScatterGather

/-! ### Answers -/

/-- A failure is never answered as a success. -/
theorem Http.Response.status_ofError_ne (e : ExecutionError) : (ofError e).status ≠ 200 := by
  show e.kind.status ≠ 200
  cases e.kind <;> decide

/-- A row whose cells cannot all be read ends the reading of rows. -/
theorem RowSet.drain_of_row {κ : Type} [FiniteCursor κ] {s t : RowSet κ} {e : ExecutionError}
    (h : s.advance = (.ok true, t)) (hrow : t.row = .error e) : s.drain.1 = .error e := by
  rw [drain]
  split
  · next h' =>
      rw [h] at h'
      cases h'
  · next h' =>
      rw [h] at h'
      cases h'
  · next h' =>
      rw [h] at h'
      cases h'
      rw [hrow]

namespace StatementRun

/-- The answer to the request of a statement that has returned. -/
def response? (r : StatementRun) : Option Http.Response := r.result?.map Http.Response.ofStatement

/-- The request is answered with a failure. -/
def refused (r : StatementRun) : Bool := r.response?.any fun answer => answer.status ≠ 200

/-- The failure that reading the rows of a result meets. -/
def unread? (r : StatementRun) : Option ExecutionError :=
  match r.result? with
  | some (.ok (.query rows)) =>
    match rows.drain.1 with
    | .error e => some e
    | .ok _ => none
  | _ => none

variable {r : StatementRun}

/-- **A request is answered with a failure in two cases**: its statement has failed, or its rows
could not be read; never in both. -/
theorem refused_eq (r : StatementRun) :
    r.refused = (r.failure?.isSome || r.unread?.isSome) ∧
      ¬ (r.failure?.isSome = true ∧ r.unread?.isSome = true) := by
  unfold refused response? failure? unread?
  cases r.result? with
  | none => simp
  | some result =>
      cases result with
      | error e => simp [Http.Response.ofStatement, Http.Response.status_ofError_ne]
      | ok value =>
          cases value with
          | update u => simp [Http.Response.ofStatement, Http.Response.ofResult, Http.Response.json]
          | query rows =>
              cases h : rows.drain.1 with
              | ok read =>
                  simp [Http.Response.ofStatement, Http.Response.ofResult, Http.Response.json, h]
              | error e =>
                  simp [Http.Response.ofStatement, Http.Response.ofResult, h,
                    Http.Response.status_ofError_ne]

end StatementRun

namespace Service

/-- The requests that are answered with a failure, counted in two parts. -/
theorem countP_refused (l : List StatementRun) :
    l.countP (·.refused) = l.countP (·.failure?.isSome) + l.countP (·.unread?.isSome) := by
  induction l with
  | nil => rfl
  | cons r l ih =>
      obtain ⟨heq, hnot⟩ := r.refused_eq
      simp only [List.countP_cons, ih, heq]
      cases hf : r.failure?.isSome <;> cases hu : r.unread?.isSome
      · rfl
      · simp
        omega
      · simp
        omega
      · exact absurd ⟨hf, hu⟩ hnot

/-- **The counter of failures against the answers.** When all statements of a run have returned, the
requests that were answered with a failure are those that the counter has grown by, and those whose
rows could not be read; so the counter says how many were answered with a failure exactly when all
rows could be read. -/
theorem failures_counted_but_in_reading {engine : Engine} {strategy : MergeStrategy}
    {type requestType : TransactionType} {records : Records} {actions : List ServiceAction}
    {s : Service} (h : (new engine strategy type requestType records).run actions = some s)
    (hreturned : s.Returned)
    (hfits : (records.metrics.read .statementsFailed).toNat + s.tally .statementsFailed < 2 ^ 64) :
    (s.records.metrics.read .statementsFailed).toNat + s.statements.countP (·.unread?.isSome) =
      (records.metrics.read .statementsFailed).toNat + s.statements.countP (·.refused) ∧
    ((s.records.metrics.read .statementsFailed).toNat =
        (records.metrics.read .statementsFailed).toNat + s.statements.countP (·.refused) ↔
      ∀ r ∈ s.statements, r.unread? = none) := by
  have hcounted : (s.records.metrics.read .statementsFailed).toNat =
      (records.metrics.read .statementsFailed).toNat +
        s.statements.countP (·.failure?.isSome) := by
    rw [read_of_returned h hreturned, toNat_add_ofNat hfits]
    rfl
  have hparts := countP_refused s.statements
  refine ⟨by omega, ?_⟩
  have hread : s.statements.countP (·.unread?.isSome) = 0 ↔
      ∀ r ∈ s.statements, r.unread? = none := by
    simp [List.countP_eq_zero]
  rw [← hread]
  omega

/-- A service that hands rows on as they come. -/
def handingOn : Service :=
  new (.connection (.new ⟨.memoryStrictly 1000, false⟩ (.ofSize 1))) .concatenate .local .local
    .empty

/-- Metadata of two columns. -/
def twoColumns : QueryMetadata := ⟨[⟨"id", none, .integer⟩, ⟨"name", none, .text⟩]⟩

/-- Rows that are too narrow for their metadata. -/
def narrowRows : List Row := [[.integer (.ofUInt64 1)]]

/-- A statement whose one unit is answered by rows that are too narrow. -/
def narrowSchedule : List ServiceAction :=
  [.enter ⟨(Route.ofStatement (.ofKind .dql)).withUnit "ds_0" "SELECT w", none⟩, .write 0, .write 0,
    .dispatch 0, .connection (.ask 0), .connection (.acquired 0 none), .connection (.launch 0),
    .connection (.send (.call 0)),
    .connection (.answer (.call 0)
      (.result (.ok (Reply.rows (some twoColumns) narrowRows).toOutcome))),
    .connection (.finish (.call 0)), .connection (.collect 0), .conclude 0]

/-- The result of that statement: rows of which none has been read. -/
def narrowResult : RowSet MergedCursor :=
  .ofCursor twoColumns (.chain (.ofList [.ofMemory (.ofRows 2 narrowRows)]))

/-- The rows cannot be read. -/
theorem drain_narrowResult :
    narrowResult.drain.1 = .error (.invalidState (.columnOutOfRange 1 1)) :=
  RowSet.drain_of_row (t := narrowResult.advance.2) rfl rfl

/-- The statement returns without a failure, and its rows cannot be read. -/
theorem run_narrowSchedule : ∃ r s, handingOn.run narrowSchedule = some s ∧ s.statements = [r] ∧
    s.Returned ∧ r.failure? = none ∧ r.unread? = some (.invalidState (.columnOutOfRange 1 1)) ∧
    s.records.metrics.read .statementsFailed = 0 := by
  have hrun : ∃ r s, handingOn.run narrowSchedule = some s ∧ s.statements = [r] ∧
      r.result? = some (.ok (.query narrowResult)) ∧
      s.records.metrics.read .statementsFailed = 0 := ⟨_, _, rfl, rfl, rfl, rfl⟩
  obtain ⟨r, s, hs, hstatements, hresult, hzero⟩ := hrun
  refine ⟨r, s, hs, hstatements, ?_, by simp [StatementRun.failure?, hresult], ?_, hzero⟩
  · intro r' hr'
    rw [hstatements, List.mem_singleton] at hr'
    rw [hr', hresult]
    rfl
  · simp [StatementRun.unread?, hresult, drain_narrowResult]

/-- The request whose rows could not be read makes the difference between what is answered and what
is counted. -/
theorem failures_counted_but_in_reading_narrow : ∃ s, handingOn.run narrowSchedule = some s ∧
    (s.records.metrics.read .statementsFailed).toNat + 1 = s.statements.countP (·.refused) := by
  obtain ⟨r, s, hs, hstatements, hreturned, hfailure, hunread, hzero⟩ := run_narrowSchedule
  have htally : s.tally .statementsFailed = 0 := by simp [tally, hstatements, hfailure]
  obtain ⟨hparts, -⟩ := failures_counted_but_in_reading hs hreturned (by
    rw [htally]
    decide)
  have hone : s.statements.countP (·.unread?.isSome) = 1 := by simp [hstatements, hunread]
  have hbefore : (Records.empty.metrics.read .statementsFailed).toNat = 0 := rfl
  rw [hone, hbefore, Nat.zero_add] at hparts
  exact ⟨s, hs, hparts⟩

/-- **A request can be answered with a failure that is not counted.** -/
theorem reading_failure_not_counted : ∃ s, handingOn.run narrowSchedule = some s ∧ s.Returned ∧
    s.statements.countP (·.refused) = 1 ∧ s.records.metrics.read .statementsFailed = 0 := by
  obtain ⟨r, s, hs, hstatements, hreturned, hfailure, hunread, hzero⟩ := run_narrowSchedule
  refine ⟨s, hs, hreturned, ?_, hzero⟩
  simp [hstatements, r.refused_eq.1, hunread]

end Service

end ScatterGather
