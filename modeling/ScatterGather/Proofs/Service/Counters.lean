import Mathlib.Algebra.BigOperators.Group.List.Basic
import Mathlib.Algebra.Ring.Nat
import ScatterGather.Proofs.Service.Moves

/-!
# The counters account for every statement

What a statement has to change in the records is fixed by how it enters and by what its dispatch
gives (`StatementRun.due`); what it has not changed yet it owes. So what a run has changed and what
its statements owe is all that is due of them, in any weight of changes that adds up
(`Service.accounted_of_run`), whatever the order in which statements make their changes. Weighed by
how much they raise a counter, this says what the counter is (`Service.Booked.counted`). When all
statements have returned nothing is owed any more, and what is due of a counter is the number that
its name promises (`Service.tally`).
-/

namespace ScatterGather

/-! ### What changes do to counters -/

/-- Raising a counter leaves the others as they are. -/
theorem Metrics.read_raise (m : Metrics) (c d : Counter) (n : Nat) :
    (m.raise c n).read d = if c = d then m.read d + UInt64.ofNat n else m.read d := by
  cases c <;> cases d <;> rfl

namespace RecordChange

/-- By how much a change raises a counter. -/
def gain (c : Counter) : RecordChange → Nat
  | .raise d n => if d = c then n else 0
  | .reload _ | .report _ => 0

/-- By how much changes raise a counter. -/
def gained (c : Counter) (changes : List RecordChange) : Nat := (changes.map (gain c)).sum

variable (c : Counter)

@[simp] theorem gained_nil : gained c [] = 0 := rfl

@[simp] theorem gained_cons (x : RecordChange) (changes : List RecordChange) :
    gained c (x :: changes) = x.gain c + gained c changes := by
  simp [gained]

@[simp] theorem gained_append (changes changes' : List RecordChange) :
    gained c (changes ++ changes') = gained c changes + gained c changes' := by
  simp [gained]

/-- A statement that goes on to the dispatch counts once, and each of its units. -/
theorem gained_beginning (units : Nat) :
    gained c (beginning units) =
      (if .statements = c then 1 else 0) + if .unitsDispatched = c then units else 0 := by
  simp [beginning, raises, Counter.ofStatement, gain]

/-- A failure counts once, and once under its kind. -/
theorem gained_failing (e : ExecutionError) :
    gained c (failing e) =
      (if .statementsFailed = c then 1 else 0) + if e.kind.counter? = some c then 1 else 0 := by
  cases h : e.kind.counter? <;> simp [failing, raises, Counter.ofFailure, gain, h]

/-- A reload counts once. -/
theorem gained_reloading (table : String) :
    gained c (reloading table) = if .ddlRefreshes = c then 1 else 0 := by
  simp [reloading, raises, Counter.ofReload, gain]

end RecordChange

/-- A change raises each counter by what it says. -/
theorem Records.read_change (r : Records) (x : RecordChange) (c : Counter) :
    (r.change x).metrics.read c = r.metrics.read c + UInt64.ofNat (x.gain c) := by
  cases x with
  | raise d n =>
      show (r.metrics.raise d n).read c = _
      rw [Metrics.read_raise, RecordChange.gain]
      split
      · rfl
      · simp
  | reload table => simp [change, RecordChange.gain]
  | report line => simp [change, RecordChange.gain]

/-- So do changes one after another. -/
theorem Records.read_changes (r : Records) (changes : List RecordChange) (c : Counter) :
    (changes.foldl change r).metrics.read c =
      r.metrics.read c + UInt64.ofNat (RecordChange.gained c changes) := by
  induction changes generalizing r with
  | nil => simp
  | cons x changes ih =>
      rw [List.foldl_cons, ih, read_change, RecordChange.gained_cons, UInt64.ofNat_add,
        UInt64.add_assoc]

/-! ### What a statement has to change -/

namespace Handler

variable {transaction : Transaction} {route : Route}

/-- A statement that may not run fails at once. -/
theorem enter_of_gated (route : Route) (hg : gated transaction route.statement = true) :
    enter transaction route = (.settled (.error (gateError route.statement)),
      RecordChange.failing (gateError route.statement)) := by
  simp [enter, hg]

/-- A statement without units is over at once. -/
theorem enter_of_nil (hg : gated transaction route.statement = false) (hu : route.units = []) :
    enter transaction route = (.settled (.ok (.update .zero)), []) := by
  simp [enter, hg, hu]

/-- A statement that may run and has units goes on to the dispatch. -/
theorem enter_of_passed (hg : gated transaction route.statement = false) (hu : route.units ≠ []) :
    enter transaction route = (.dispatch, RecordChange.beginning route.units.length) := by
  simp [enter, hg, hu]

end Handler

namespace StatementRun

/-- All that a statement has to change, as far as it has come: what it enters with, and what its
result changes once it has been dispatched and concluded. -/
def due (r : StatementRun) : List RecordChange :=
  match Handler.enter r.transaction r.route, r.stage with
  | (.dispatch, changes), .concluded result =>
    changes ++ Handler.concluding r.route.statement result
  | (_, changes), _ => changes

/-- Where a statement stands fits how it has entered; while its call is under way it owes
nothing. -/
inductive Fits (r : StatementRun) : Prop where
  | settled {result changes}
    (ha : Handler.enter r.transaction r.route = (.settled result, changes))
    (hs : r.stage = .concluded result)
  | admitted {changes} (ha : Handler.enter r.transaction r.route = (.dispatch, changes))
    (hs : r.stage = .admitted)
  | dispatched {changes call} (ha : Handler.enter r.transaction r.route = (.dispatch, changes))
    (hs : r.stage = .dispatched call) (ho : r.owed = [])
  | concluded {changes result} (ha : Handler.enter r.transaction r.route = (.dispatch, changes))
    (hs : r.stage = .concluded result)
  | dropped {changes} (ha : Handler.enter r.transaction r.route = (.dispatch, changes))
    (hs : r.stage = .dropped) (ho : r.owed = [])

variable {s t : Service} {n : Nat} {a : ServiceAction} {r r' : StatementRun}

/-- The change that a statement makes by an action. -/
def made? (r : StatementRun) : ServiceAction → Option RecordChange
  | .write _ => r.owed.head?
  | _ => none

/-- A statement whose call is under way has been admitted and owes nothing. -/
theorem Fits.of_dispatched {call : Nat} (h : r.Fits) (hs : r.stage = .dispatched call) :
    (∃ changes, Handler.enter r.transaction r.route = (.dispatch, changes)) ∧ r.owed = [] := by
  cases h with
  | dispatched ha _ ho => exact ⟨⟨_, ha⟩, ho⟩
  | settled _ hs' | admitted _ hs' | concluded _ hs' | dropped _ hs' _ =>
      rw [hs] at hs'
      cases hs'

/-- A statement that was answered at once has kept its answer. -/
theorem Fits.stage_of_settled {result : StatementResult} {changes : List RecordChange}
    (h : r.Fits) (ha : Handler.enter r.transaction r.route = (.settled result, changes)) :
    r.stage = .concluded result := by
  cases h with
  | settled ha' hs =>
      rw [ha] at ha'
      cases ha'
      exact hs
  | admitted ha' _ | dispatched ha' _ _ | concluded ha' _ | dropped ha' _ _ =>
      rw [ha] at ha'
      cases ha'

/-- **Every step of a statement keeps it fitting.** -/
theorem Fits.move (h : r.Fits) (hm : r.Moves s n a t r') : r'.Fits := by
  cases hm with
  | writes ho =>
      cases h with
      | settled ha hs => exact .settled ha hs
      | admitted ha hs => exact .admitted ha hs
      | concluded ha hs => exact .concluded ha hs
      | dispatched _ _ ho' | dropped _ _ ho' =>
          rw [ho] at ho'
          cases ho'
  | begins hs ho =>
      cases h with
      | admitted ha _ => exact .dispatched ha rfl ho
      | settled _ hs' | dispatched _ hs' _ | concluded _ hs' | dropped _ hs' _ =>
          rw [hs] at hs'
          cases hs'
  | concludes hs _ _ =>
      obtain ⟨⟨changes, ha⟩, -⟩ := h.of_dispatched hs
      exact .concluded ha rfl
  | leaves hs _ =>
      obtain ⟨⟨changes, ha⟩, ho⟩ := h.of_dispatched hs
      exact .dropped ha rfl ho

/-- What a step of a statement makes of its changes: it makes one, or decides on further ones. -/
theorem Fits.changes (h : r.Fits) (hm : r.Moves s n a t r') :
    t.records = (r.made? a).toList.foldl Records.change s.records ∧
      ∃ further, r'.due = r.due ++ further ∧ r.owed ++ further = (r.made? a).toList ++ r'.owed := by
  cases hm with
  | @writes c owed ho =>
      refine ⟨by simp [made?, ho], [], ?_, by simp [made?, ho]⟩
      simp [due]
  | begins hs ho =>
      refine ⟨rfl, [], ?_, by simp [made?]⟩
      simp only [due, hs, List.append_nil]
  | @concludes call response result owed hs he hc =>
      obtain ⟨⟨changes, ha⟩, ho⟩ := h.of_dispatched hs
      have howed : owed = Handler.concluding r.route.statement result := by
        cases hc
        rfl
      exact ⟨rfl, owed, by simp [due, ha, hs, howed], by simp [made?, ho]⟩
  | leaves hs _ =>
      obtain ⟨⟨changes, ha⟩, ho⟩ := h.of_dispatched hs
      exact ⟨rfl, [], by simp [due, ha, hs], by simp [made?]⟩

end StatementRun

/-- A request that enters owes all that is due. -/
theorem Service.fits_entering (s : Service) (q : Http.ExecuteRequest) :
    (s.entering q).Fits ∧ (s.entering q).owed = (s.entering q).due := by
  cases h : Handler.enter (q.transaction s.transaction s.requestType) q.route with
  | mk admission changes =>
      cases admission with
      | settled result =>
          simp only [entering, h]
          exact ⟨.settled h rfl, by simp [StatementRun.due, h]⟩
      | dispatch =>
          simp only [entering, h]
          exact ⟨.admitted h rfl, by simp [StatementRun.due, h, Admission.stage]⟩

/-! ### What is owed and what is due -/

namespace Service

open RecordChange (gained)

variable {s s' : Service} {a : ServiceAction} {weight : List RecordChange → Nat}

/-- The change of the records that an action makes: the one that its statement makes. -/
def made? (s : Service) (a : ServiceAction) : Option RecordChange := do
  let r ← s.statements[← a.statement?]?
  r.made? a

/-- What the statements owe, in some weight of changes. -/
def owedIn (weight : List RecordChange → Nat) (s : Service) : Nat :=
  (s.statements.map fun r => weight r.owed).sum

/-- What is due of the statements as far as they have come, in some weight of changes. -/
def dueIn (weight : List RecordChange → Nat) (s : Service) : Nat :=
  (s.statements.map fun r => weight r.due).sum

/-- The statements fit how they have entered, and each counter is what it was with what is due of
it, but for what is still owed. -/
structure Booked (before : Metrics) (s : Service) : Prop where
  fits : ∀ r ∈ s.statements, r.Fits
  counted : ∀ c, s.records.metrics.read c + UInt64.ofNat (s.owedIn (gained c)) =
    before.read c + UInt64.ofNat (s.dueIn (gained c))

/-- Every step keeps the statements fitting. -/
theorem Moves.fits (h : s.Moves a s') (hfits : ∀ r ∈ s.statements, r.Fits) :
    ∀ r ∈ s'.statements, r.Fits := by
  intro u hu
  cases h with
  | transaction _ hs | engine _ hs =>
      subst hs
      exact hfits u hu
  | @enters q _ hs =>
      subst hs
      rcases List.mem_append.mp hu with hu | hu
      · exact hfits u hu
      · rw [List.mem_singleton.mp hu]
        exact (s.fits_entering q).1
  | statement hr hm hs =>
      subst hs
      rw [setStatement, hm.kept.1] at hu
      rcases List.mem_or_eq_of_mem_set hu with hu | rfl
      · exact hfits u hu
      · exact (hfits _ (List.mem_of_getElem? hr)).move hm

/-- The change that an action makes is the one that its statement makes. -/
theorem made?_of_moves {n : Nat} {t : Service} {r r' : StatementRun}
    (hr : s.statements[n]? = some r) (hm : r.Moves s n a t r') : s.made? a = r.made? a := by
  simp [made?, hm.statement?_eq, hr]

/-- A step changes the records by what it makes. -/
theorem Moves.records_eq (h : s.Moves a s') (hfits : ∀ r ∈ s.statements, r.Fits) :
    s'.records = (s.made? a).toList.foldl Records.change s.records := by
  cases h with
  | transaction ha hs | enters ha hs =>
      subst ha hs
      rfl
  | engine ha hs =>
      subst hs
      rcases ha with ⟨x, rfl⟩ | ⟨x, rfl⟩ <;> rfl
  | statement hr hm hs =>
      rw [hs, made?_of_moves hr hm]
      exact ((hfits _ (List.mem_of_getElem? hr)).changes hm).1

/-- A change that is made is not owed any more, and what is decided on is due. -/
theorem Moves.balance (h : s.Moves a s') (hfits : ∀ r ∈ s.statements, r.Fits)
    (hadd : ∀ xs ys, weight (xs ++ ys) = weight xs + weight ys) :
    ∃ further, s'.owedIn weight + weight (s.made? a).toList = s.owedIn weight + further ∧
      s'.dueIn weight = s.dueIn weight + further := by
  have hnil : weight [] = 0 := by simpa using hadd [] []
  cases h with
  | transaction ha hs =>
      subst ha hs
      exact ⟨0, by simp [made?, ServiceAction.statement?, hnil, owedIn], rfl⟩
  | engine ha hs =>
      subst hs
      rcases ha with ⟨x, rfl⟩ | ⟨x, rfl⟩ <;>
        exact ⟨0, by simp [made?, ServiceAction.statement?, hnil, owedIn], rfl⟩
  | @enters q ha hs =>
      subst ha hs
      refine ⟨weight (s.entering q).due, ?_, by simp [dueIn, enter_eq]⟩
      simp [owedIn, enter_eq, made?, ServiceAction.statement?, hnil, (s.fits_entering q).2]
  | @statement n r t r' hr hm hs =>
      obtain ⟨-, further, hdue, howed⟩ := (hfits r (List.mem_of_getElem? hr)).changes hm
      have hstatements : s'.statements = s.statements.set n r' := by
        rw [hs, setStatement, hm.kept.1]
      have hsums := sum_set (fun u => weight u.owed) hr r'
      have hsumd := sum_set (fun u => weight u.due) hr r'
      have hweight := congrArg weight howed
      simp only [hadd] at hweight
      simp only [hdue, hadd] at hsumd
      refine ⟨weight further, ?_, ?_⟩
      · rw [made?_of_moves hr hm, owedIn, owedIn, hstatements]
        omega
      · rw [dueIn, dueIn, hstatements]
        omega

/-- What a run has changed in the records, and what its statements still owe. -/
structure Accounted (s₀ : Service) (actions : List ServiceAction) (s : Service) : Prop where
  fits : ∀ r ∈ s.statements, r.Fits
  records : s.records = (emitted step made? s₀ actions).foldl Records.change s₀.records
  balance : ∀ weight : List RecordChange → Nat,
    (∀ xs ys, weight (xs ++ ys) = weight xs + weight ys) →
      weight (emitted step made? s₀ actions) + s.owedIn weight = s.dueIn weight

section

variable {engine : Engine} {strategy : MergeStrategy} {type requestType : TransactionType}
  {records : Records} {actions : List ServiceAction}

/-- **A run accounts for all changes**: what is due of its statements has been made or is owed. -/
theorem accounted_of_run (h : (new engine strategy type requestType records).run actions = some s) :
    Accounted (new engine strategy type requestType records) actions s := by
  refine foldlM_induction (P := Accounted (new engine strategy type requestType records)) ?_ ?_ h
  · refine ⟨List.forall_mem_nil _, rfl, fun weight hadd => ?_⟩
    have hnil : weight [] = 0 := by simpa using hadd [] []
    exact hnil
  · intro actions s a s' hrun hA hs
    have hm := moves_of_step hs
    refine ⟨hm.fits hA.fits, ?_, fun weight hadd => ?_⟩
    · rw [emitted_concat hrun, List.foldl_append, ← hA.records, hm.records_eq hA.fits]
    · obtain ⟨further, howed, hdue⟩ := hm.balance hA.fits hadd
      have hbefore := hA.balance weight hadd
      rw [emitted_concat hrun, hadd, hdue]
      omega

/-- In a run each counter is what it was with what is due of it, but for what is still owed. -/
theorem booked_of_run (h : (new engine strategy type requestType records).run actions = some s) :
    Booked records.metrics s := by
  have hA := accounted_of_run h
  refine ⟨hA.fits, fun c => ?_⟩
  have hbalance := hA.balance (gained c) (RecordChange.gained_append c)
  calc s.records.metrics.read c + UInt64.ofNat (s.owedIn (gained c))
      = records.metrics.read c + UInt64.ofNat (gained c (emitted step made? _ actions)) +
          UInt64.ofNat (s.owedIn (gained c)) := by
        rw [hA.records, Records.read_changes]
        rfl
    _ = records.metrics.read c + UInt64.ofNat (s.dueIn (gained c)) := by
        rw [UInt64.add_assoc, ← UInt64.ofNat_add, hbalance]

end

/-- All statements have returned. -/
def Returned (s : Service) : Prop := ∀ r ∈ s.statements, r.result?.isSome

end Service

/-! ### What is due of a statement that has returned -/

namespace StatementRun

/-- The statement has passed the gate, with units to be dispatched. -/
def passed (r : StatementRun) : Bool :=
  !Handler.gated r.transaction r.route.statement && !r.route.units.isEmpty

/-- The failure that a statement has returned. -/
def failure? (r : StatementRun) : Option ExecutionError :=
  match r.result? with
  | some (.error e) => some e
  | _ => none

/-- The statement has returned a failure of a kind. -/
def failedAs (kind : ErrorKind) (r : StatementRun) : Bool := r.failure?.any (·.kind = kind)

/-- The statement has changed a table: it has units, and has returned no failure. -/
def reloaded (r : StatementRun) : Bool :=
  r.route.statement.kind = .ddl && !r.route.units.isEmpty && !r.route.statement.tables.isEmpty &&
    r.result?.isSome && r.failure?.isNone

/-- What one statement that has returned counts for a counter. -/
def share (r : StatementRun) : Counter → Nat
  | .statements => if r.passed then 1 else 0
  | .unitsDispatched => if r.passed then r.route.units.length else 0
  | .statementsFailed => if r.failure?.isSome then 1 else 0
  | .driverErrors => if r.failedAs .driver then 1 else 0
  | .timeouts => if r.failedAs .timeout then 1 else 0
  | .resourceErrors => if r.failedAs .resource then 1 else 0
  | .unsupported => if r.failedAs .unsupported then 1 else 0
  | .ddlRefreshes => if r.reloaded then 1 else 0

variable {r : StatementRun} {result : StatementResult}

/-- A statement that has returned is concluded and owes nothing. -/
theorem result?_eq_some : r.result? = some result ↔ r.stage = .concluded result ∧ r.owed = [] := by
  unfold result?
  split
  · next hs ho => simp [hs, ho]
  · next h =>
      simp only [reduceCtorEq, false_iff, not_and]
      exact fun hs ho => h _ hs ho

/-- All that is due of a statement that may not run is its failure. -/
theorem due_of_gated (hg : Handler.gated r.transaction r.route.statement = true) :
    r.due = RecordChange.failing (Handler.gateError r.route.statement) := by
  simp [due, Handler.enter_of_gated r.route hg]

/-- How a statement has returned: it was stopped, it had no units, or it was dispatched. -/
theorem Fits.returned (h : r.Fits) (hr : r.result? = some result) :
    (r.passed = false ∧ result = .error (Handler.gateError r.route.statement) ∧
      r.due = RecordChange.failing (Handler.gateError r.route.statement)) ∨
    (r.passed = false ∧ r.route.units = [] ∧ (∃ value, result = .ok value) ∧ r.due = []) ∨
    (r.passed = true ∧ r.route.units ≠ [] ∧
      r.due = RecordChange.beginning r.route.units.length ++
        Handler.concluding r.route.statement result) := by
  obtain ⟨hs, -⟩ := result?_eq_some.mp hr
  cases hg : Handler.gated r.transaction r.route.statement with
  | true =>
      cases hs.symm.trans (h.stage_of_settled (Handler.enter_of_gated r.route hg))
      exact .inl ⟨by simp [passed, hg], rfl, due_of_gated hg⟩
  | false =>
      cases hu : r.route.units with
      | nil =>
          have henter := Handler.enter_of_nil hg hu
          cases hs.symm.trans (h.stage_of_settled henter)
          exact .inr (.inl ⟨by simp [passed, hu], rfl, ⟨_, rfl⟩, by simp [due, henter]⟩)
      | cons u units =>
          have hne : r.route.units ≠ [] := by simp [hu]
          have henter := Handler.enter_of_passed hg hne
          refine .inr (.inr ⟨by simp [passed, hg, hu], by simp, ?_⟩)
          rw [← hu]
          simp [due, henter, hs]

/-- What a failure counts is the share of a statement that returns it, beside what it counts for
having passed. -/
theorem gained_failing_eq {e : ExecutionError} (hr : r.result? = some (.error e)) (c : Counter) :
    RecordChange.gained c (RecordChange.failing e) =
      if c = .statements ∨ c = .unitsDispatched then 0 else r.share c := by
  have hf : r.failure? = some e := by simp [failure?, hr]
  rw [RecordChange.gained_failing]
  cases c <;> cases hk : e.kind <;> simp [share, failedAs, reloaded, hf, hk, ErrorKind.counter?]

/-- What a result without failure counts is the share of a statement that returns it, beside what it
counts for having passed. -/
theorem gained_reloading_eq {value : LogicalResult MergedCursor}
    (hr : r.result? = some (.ok value)) (hu : r.route.units ≠ []) (c : Counter) :
    RecordChange.gained c (Handler.concluding r.route.statement (.ok value)) =
      if c = .statements ∨ c = .unitsDispatched then 0 else r.share c := by
  have hf : r.failure? = none := by simp [failure?, hr]
  have hreloaded : r.reloaded = (Handler.staleTable? r.route.statement).isSome := by
    unfold reloaded Handler.staleTable? Statement.singleTable?
    split <;> cases r.route.statement.tables <;> simp_all
  cases hstale : Handler.staleTable? r.route.statement with
  | none =>
      rw [hstale] at hreloaded
      cases c <;> simp [Handler.concluding, hstale, share, failedAs, hf, hreloaded]
  | some table =>
      rw [hstale] at hreloaded
      simp only [Handler.concluding, hstale, Option.map_some, Option.getD_some,
        RecordChange.gained_reloading]
      cases c <;> simp [share, failedAs, hf, hreloaded]

/-- **What is due of a statement that has returned is its share.** -/
theorem Fits.gained_due (h : r.Fits) (hr : r.result? = some result) (c : Counter) :
    RecordChange.gained c r.due = r.share c := by
  rcases h.returned hr with ⟨hp, rfl, hdue⟩ | ⟨hp, hu, ⟨value, rfl⟩, hdue⟩ | ⟨hp, hu, hdue⟩
  · rw [hdue, gained_failing_eq hr]
    cases c <;> simp [share, hp]
  · have hf : r.failure? = none := by simp [failure?, hr]
    rw [hdue]
    cases c <;> simp [share, hp, hf, hu, failedAs, reloaded]
  · have hconcluding : RecordChange.gained c (Handler.concluding r.route.statement result) =
        if c = .statements ∨ c = .unitsDispatched then 0 else r.share c := by
      cases result with
      | error e => exact gained_failing_eq hr c
      | ok value => exact gained_reloading_eq hr hu c
    rw [hdue, RecordChange.gained_append, RecordChange.gained_beginning, hconcluding]
    cases c <;> simp [share, hp]

end StatementRun

/-! ### The main result -/

namespace Service

open RecordChange (gained)

/-- What a counter should say of the statements of a service that have all returned. -/
def tally (s : Service) : Counter → Nat
  | .statements => s.statements.countP (·.passed)
  | .unitsDispatched =>
    ((s.statements.filter (·.passed)).map fun r => r.route.units.length).sum
  | .statementsFailed => s.statements.countP (·.failure?.isSome)
  | .driverErrors => s.statements.countP (·.failedAs .driver)
  | .timeouts => s.statements.countP (·.failedAs .timeout)
  | .resourceErrors => s.statements.countP (·.failedAs .resource)
  | .unsupported => s.statements.countP (·.failedAs .unsupported)
  | .ddlRefreshes => s.statements.countP (·.reloaded)

/-- A counter that does not overflow grows by what it is raised by. -/
theorem toNat_add_ofNat {x : UInt64} {n : Nat} (h : x.toNat + n < 2 ^ 64) :
    (x + UInt64.ofNat n).toNat = x.toNat + n := by
  rw [UInt64.toNat_add, UInt64.toNat_ofNat', Nat.add_mod_mod, Nat.mod_eq_of_lt h]

/-- Counting is adding ones. -/
theorem sum_map_ite_one {α : Type} (p : α → Bool) (l : List α) :
    (l.map fun x => if p x then 1 else 0).sum = l.countP p := by
  induction l with
  | nil => rfl
  | cons x l ih =>
      rw [List.map_cons, List.sum_cons, ih, List.countP_cons]
      exact Nat.add_comm ..

/-- The shares of all statements make the tally. -/
theorem sum_share (s : Service) (c : Counter) :
    (s.statements.map (·.share c)).sum = s.tally c := by
  cases c with
  | unitsDispatched => simp [StatementRun.share, tally, List.sum_map_ite]
  | _ => exact sum_map_ite_one _ _

/-- When all statements have returned, a counter is what it was and the tally. -/
theorem read_of_returned {engine : Engine} {strategy : MergeStrategy}
    {type requestType : TransactionType} {records : Records} {actions : List ServiceAction}
    {s : Service} (h : (new engine strategy type requestType records).run actions = some s)
    (hreturned : s.Returned) (c : Counter) :
    s.records.metrics.read c = records.metrics.read c + UInt64.ofNat (s.tally c) := by
  have hb := booked_of_run h
  have howed : s.owedIn (gained c) = 0 := by
    refine List.sum_eq_zero fun x hx => ?_
    obtain ⟨r, hr, rfl⟩ := List.mem_map.mp hx
    obtain ⟨result, hresult⟩ := Option.isSome_iff_exists.mp (hreturned r hr)
    rw [(StatementRun.result?_eq_some.mp hresult).2, RecordChange.gained_nil]
  have hdue : s.dueIn (gained c) = s.tally c := by
    rw [← sum_share, dueIn]
    congr 1
    refine List.map_congr_left fun r hr => ?_
    obtain ⟨result, hresult⟩ := Option.isSome_iff_exists.mp (hreturned r hr)
    exact (hb.fits r hr).gained_due hresult c
  have hcounted := hb.counted c
  rw [howed, hdue] at hcounted
  simpa using hcounted

/-- **The counters account for every statement.** When all statements of a run have returned, in
whatever order they went on, each counter has grown by the number of statements that it counts, as
long as it does not overflow. -/
theorem counters_account {engine : Engine} {strategy : MergeStrategy}
    {type requestType : TransactionType} {records : Records} {actions : List ServiceAction}
    {s : Service} (h : (new engine strategy type requestType records).run actions = some s)
    (hreturned : s.Returned) (c : Counter)
    (hfits : (records.metrics.read c).toNat + s.tally c < 2 ^ 64) :
    (s.records.metrics.read c).toNat = (records.metrics.read c).toNat + s.tally c := by
  rw [read_of_returned h hreturned, toNat_add_ofNat hfits]

/-- A service over connections on which nothing has happened. -/
def overConnections : Service :=
  new (.connection (.new ⟨.connectionStrictly, false⟩ (.ofSize 1))) .concatenate .local .local
    .empty

/-- A statement that is executed, one that the gate stops and one without units, side by side. -/
def mixedSchedule : List ServiceAction :=
  [.enter ⟨(Route.ofStatement ⟨.ddl, ["t"], false⟩).withUnit "ds_0" "a", none⟩,
    .enter ⟨(Route.ofStatement ⟨.ddl, ["t"], false⟩).withUnit "ds_0" "b", some ⟨some .xa, true⟩⟩,
    .write 0, .write 1, .enter ⟨.ofStatement (.ofKind .dql), none⟩, .write 0, .dispatch 0,
    .connection (.ask 0), .write 1, .connection (.acquired 0 none), .connection (.launch 0),
    .connection (.send (.call 0)),
    .connection (.answer (.call 0) (.result (.ok (.update ⟨1, 0⟩)))),
    .connection (.finish (.call 0)), .write 1, .connection (.collect 0), .conclude 0, .write 0,
    .write 0]

/-- Every counter is right behind statements that have gone on side by side. -/
theorem counters_account_mixed : ∃ s, overConnections.run mixedSchedule = some s ∧ s.Returned ∧
    (∀ c, (s.records.metrics.read c).toNat = s.tally c) ∧
    s.tally .statements = 1 ∧ s.tally .statementsFailed = 1 ∧ s.tally .unsupported = 1 ∧
    s.tally .ddlRefreshes = 1 := by
  have hall : ∃ s, overConnections.run mixedSchedule = some s ∧ s.Returned ∧
      (∀ c, s.tally c < 2 ^ 64) ∧ s.tally .statements = 1 ∧ s.tally .statementsFailed = 1 ∧
      s.tally .unsupported = 1 ∧ s.tally .ddlRefreshes = 1 := by
    refine ⟨_, rfl, ?_, ?_, rfl, rfl, rfl, rfl⟩
    · unfold Returned
      decide
    · intro c
      cases c <;> decide
  obtain ⟨s, hs, hreturned, hfits, htallies⟩ := hall
  refine ⟨s, hs, hreturned, fun c => ?_, htallies⟩
  have hzero : (Records.empty.metrics.read c).toNat = 0 := by cases c <;> rfl
  have h := counters_account hs hreturned c (by simpa [hzero] using hfits c)
  rwa [hzero, Nat.zero_add] at h

end Service

end ScatterGather
