import Mathlib.Data.UInt
import ScatterGather.Proofs.Service.Counters

/-!
# Which statements the gate stops, and what stopping does

A statement enters in the transaction that its request brings, or in the one that statements share.
The shared one is moved by nothing but its own beginnings and ends (`Service.sharedBehind`), so a
request has no influence on another one. `Service.gate_stops_exactly` says for every history and
every request in it when the request is stopped, and that stopping it does nothing but answer, count
the failure in two counters and report it (`Service.Stopped`): a statement that is stopped never
begins a call, whatever happens beside it.
-/

namespace ScatterGather

/-- A statement is gated when it changes tables inside a distributed transaction. -/
theorem Handler.gated_iff {transaction : Transaction} {statement : Statement} :
    Handler.gated transaction statement = true ↔
      statement.kind = .ddl ∧ transaction.type = .xa ∧ transaction.active = true := by
  simp [gated, Transaction.allowsDdl]

namespace Service

/-! ### The transaction of a request -/

/-- The transaction that statements share, behind these actions: active when the last of its moves
has begun it. -/
def sharedBehind (type : TransactionType) (actions : List ServiceAction) : Transaction :=
  ⟨type, (actions.filterMap ServiceAction.move?).getLast? = some .begin⟩

/-- The transaction in which a request runs that enters behind these actions: its own, of the type
of requests where it names none, or the shared one. -/
def effective (type requestType : TransactionType) (before : List ServiceAction)
    (q : Http.ExecuteRequest) : Transaction :=
  match q.session with
  | some own => ⟨own.type.getD requestType, own.active⟩
  | none => sharedBehind type before

/-- The number of requests among actions. -/
def requests (actions : List ServiceAction) : Nat :=
  (actions.filterMap ServiceAction.request?).length

variable {engine : Engine} {strategy : MergeStrategy} {type requestType : TransactionType}
  {records : Records} {actions : List ServiceAction} {s s' : Service} {a : ServiceAction} {n : Nat}
  {r : StatementRun}

/-- A step moves the shared transaction, or leaves it as it is. -/
theorem Moves.transaction_eq (h : s.Moves a s') (actions : List ServiceAction)
    (hs : s.transaction = sharedBehind type actions) :
    s'.transaction = sharedBehind type (actions ++ [a]) := by
  have hkept : a.move? = none → s'.transaction = s.transaction →
      s'.transaction = sharedBehind type (actions ++ [a]) := by
    intro ha hs'
    rw [hs', hs, sharedBehind, sharedBehind, filterMap_concat, ha, Option.toList_none,
      List.append_nil]
  cases h with
  | @transaction m ha hs' =>
      rw [hs', ha, sharedBehind, filterMap_concat]
      simp only [ServiceAction.move?, Option.toList_some, List.getLast?_concat]
      cases m <;> simp [Transaction.moved, Transaction.begin, Transaction.commit,
        Transaction.rollback, hs, sharedBehind]
  | enters ha hs' => exact hkept (ha ▸ rfl) (hs' ▸ rfl)
  | engine ha hs' =>
      refine hkept ?_ (hs' ▸ rfl)
      rcases ha with ⟨x, rfl⟩ | ⟨x, rfl⟩ <;> rfl
  | statement _ hm hs' => exact hkept (by cases hm <;> rfl) (hs' ▸ hm.kept.2.1)

/-- **Only its own moves change the shared transaction**, and statements are numbered as they
enter. -/
theorem shared_of_run (h : (new engine strategy type requestType records).run actions = some s) :
    s.transaction = sharedBehind type actions ∧ s.requestType = requestType ∧
      s.statements.length = requests actions := by
  refine foldlM_induction (P := fun actions s => s.transaction = sharedBehind type actions ∧
    s.requestType = requestType ∧ s.statements.length = requests actions) ⟨rfl, rfl, rfl⟩ ?_ h
  intro actions s a s' _ ⟨htransaction, htype, hlength⟩ hs
  have hm := moves_of_step hs
  refine ⟨hm.transaction_eq actions htransaction, hm.requestType_eq.trans htype, ?_⟩
  rw [hm.length_eq, hlength, requests, requests, filterMap_concat, List.length_append]

/-- A request enters in its effective transaction. -/
theorem transaction_eq_effective {before : List ServiceAction} (q : Http.ExecuteRequest)
    (hs : s.transaction = sharedBehind type before) (htype : s.requestType = requestType) :
    q.transaction s.transaction s.requestType = effective type requestType before q := by
  unfold Http.ExecuteRequest.transaction effective
  cases q.session with
  | none => exact hs
  | some own =>
      obtain ⟨named, active⟩ := own
      rw [htype]
      cases active <;> rfl

/-! ### What one statement writes -/

/-- The change that an action makes on behalf of a statement. -/
def written (n : Nat) (s : Service) (a : ServiceAction) : Option RecordChange :=
  if a.statement? = some n then s.made? a else none

/-- What a statement writes in a step, and what it then owes. -/
theorem Moves.written_append (h : s.Moves a s') (hfits : ∀ r ∈ s.statements, r.Fits)
    {before : List RecordChange} (n : Nat)
    (hb : before ++ (s.statements[n]?.map (·.owed)).getD [] =
      (s.statements[n]?.map (·.due)).getD []) :
    before ++ (written n s a).toList ++ (s'.statements[n]?.map (·.owed)).getD [] =
      (s'.statements[n]?.map (·.due)).getD [] := by
  cases h with
  | transaction ha hs =>
      subst ha hs
      simpa [written, ServiceAction.statement?] using hb
  | engine ha hs =>
      subst hs
      rcases ha with ⟨x, rfl⟩ | ⟨x, rfl⟩ <;> simpa [written, ServiceAction.statement?] using hb
  | @enters q ha hs =>
      subst ha hs
      simp only [written, ServiceAction.statement?, reduceCtorEq, ↓reduceIte, Option.toList_none,
        List.append_nil, enter_eq]
      by_cases hn : n = s.statements.length
      · subst hn
        have hnil : before = [] := by simpa using hb
        simp [hnil, (s.fits_entering q).2]
      · cases hr : s.statements[n]? with
        | some r =>
            rw [hr] at hb
            rw [getElem?_append_of_eq_some hr]
            exact hb
        | none =>
            have hlen := List.getElem?_eq_none_iff.mp hr
            rw [List.getElem?_eq_none_iff.mpr (by simp; omega)]
            simpa [hr] using hb
  | @statement m r t r' hr hm hs =>
      have hstatements : s'.statements = s.statements.set m r' := by
        rw [hs, setStatement, hm.kept.1]
      rw [hstatements, written, hm.statement?_eq]
      by_cases hmn : m = n
      · subst hmn
        obtain ⟨-, further, hdue, howed⟩ := (hfits r (List.mem_of_getElem? hr)).changes hm
        rw [hr] at hb
        simp only [↓reduceIte, made?_of_moves hr hm,
          List.getElem?_set_self (List.getElem?_eq_some_iff.mp hr).1, Option.map_some,
          Option.getD_some] at hb ⊢
        rw [hdue, ← hb, List.append_assoc, List.append_assoc, howed]
      · rw [List.getElem?_set_ne hmn, if_neg (fun heq => hmn (Option.some.inj heq))]
        simpa using hb

/-- What a statement has written in a run and what it still owes is all that is due of it. -/
theorem written_append_owed
    (h : (new engine strategy type requestType records).run actions = some s)
    (hr : s.statements[n]? = some r) :
    emitted step (written n) (new engine strategy type requestType records) actions ++ r.owed =
      r.due := by
  have hall := foldlM_induction (P := fun actions s =>
    emitted step (written n) (new engine strategy type requestType records) actions ++
      (s.statements[n]?.map (·.owed)).getD [] = (s.statements[n]?.map (·.due)).getD [])
    rfl (fun {actions s a s'} hrun hb hs => by
      rw [emitted_concat hrun]
      exact (moves_of_step hs).written_append (booked_of_run hrun).fits n hb) h
  simpa [hr] using hall

/-- By how much a step of a statement raises a counter. -/
def raised (n : Nat) (c : Counter) (s : Service) (a : ServiceAction) : Option UInt64 :=
  if a.statement? = some n then
    (s.step a).map fun s' => s'.records.metrics.read c - s.records.metrics.read c
  else none

/-- A step raises a counter by what is written in it. -/
theorem sum_raised_of_step (hfits : ∀ r ∈ s.statements, r.Fits) (hs : s.step a = some s') (n : Nat)
    (c : Counter) : (raised n c s a).toList.sum =
      UInt64.ofNat (RecordChange.gained c (written n s a).toList) := by
  unfold raised written
  split
  · rw [hs, Option.map_some, (moves_of_step hs).records_eq hfits, Records.read_changes]
    simp [UInt64.add_comm (s.records.metrics.read c)]
  · rfl

/-- The steps of a statement raise a counter by what they write. -/
theorem sum_raised
    (h : (new engine strategy type requestType records).run actions = some s) (n : Nat)
    (c : Counter) :
    (emitted step (raised n c) (new engine strategy type requestType records) actions).sum =
      UInt64.ofNat (RecordChange.gained c
        (emitted step (written n) (new engine strategy type requestType records) actions)) := by
  refine foldlM_induction (P := fun actions _ =>
    (emitted step (raised n c) (new engine strategy type requestType records) actions).sum =
      UInt64.ofNat (RecordChange.gained c
        (emitted step (written n) (new engine strategy type requestType records) actions)))
    rfl ?_ h
  intro actions s a s' hrun hsum hs
  rw [emitted_concat hrun, emitted_concat hrun, List.sum_append, RecordChange.gained_append,
    UInt64.ofNat_add, hsum, sum_raised_of_step (booked_of_run hrun).fits hs]

/-- A statement keeps its number, its route and its transaction. -/
theorem kept_of_run (h : s.run actions = some s') (hr : s.statements[n]? = some r) :
    ∃ r', s'.statements[n]? = some r' ∧ r'.route = r.route ∧ r'.transaction = r.transaction := by
  refine foldlM_invariant (P := fun s => ∃ r', s.statements[n]? = some r' ∧ r'.route = r.route ∧
    r'.transaction = r.transaction) ?_ ⟨r, hr, rfl, rfl⟩ h
  rintro s a s' ⟨u, hu, hroute, htransaction⟩ hs
  obtain ⟨u', hu', rfl | ⟨t, hm⟩⟩ := (moves_of_step hs).statement_behind hu
  · exact ⟨_, hu', hroute, htransaction⟩
  · exact ⟨u', hu', hm.route_eq.trans hroute, hm.transaction_eq.trans htransaction⟩

/-- A statement that is concluded can make all the changes that it owes, and has then returned. -/
theorem returns_of_concluded {result : StatementResult} (hr : s.statements[n]? = some r)
    (hs : r.stage = .concluded result) :
    ∃ s', s.run (List.replicate r.owed.length (.write n)) = some s' ∧
      ∃ r', s'.statements[n]? = some r' ∧ r'.result? = some result := by
  obtain ⟨route, transaction, stage, owed⟩ := r
  induction owed generalizing s with
  | nil => exact ⟨s, rfl, _, hr, StatementRun.result?_eq_some.mpr ⟨hs, rfl⟩⟩
  | cons c owed ih =>
      have hstep : s.step (.write n) = some ({ s with
          records := s.records.change c }.setStatement n ⟨route, transaction, stage, owed⟩) := by
        simp [step, write, hr]
      have hlt := (List.getElem?_eq_some_iff.mp hr).1
      obtain ⟨s', hs', hret⟩ := ih (s := { s with
        records := s.records.change c }.setStatement n ⟨route, transaction, stage, owed⟩)
        (List.getElem?_set_self hlt) hs
      exact ⟨s', foldlM_cons_eq_some.mpr ⟨_, hstep, hs'⟩, hret⟩

/-! ### What the gate does -/

/-- A statement has been answered with a failure before anything else. -/
def RefusedAtOnce (s : Service) (n : Nat) : Prop :=
  ∃ r e, s.statements[n]? = some r ∧ r.stage = .concluded (.error e)

/-- The service but for its counters of failures and its log. -/
structure Harmless (s s' : Service) : Prop where
  engine : s'.engine = s.engine
  tables : s'.records.tables = s.records.tables
  transaction : s'.transaction = s.transaction
  counters : ∀ c, c ≠ .statementsFailed → c ≠ .unsupported →
    s'.records.metrics.read c = s.records.metrics.read c

/-- What a run shows of a request that the gate has stopped, the `n`-th of the service. -/
structure Stopped (s₀ : Service) (before : List ServiceAction) (q : Http.ExecuteRequest)
    (after : List ServiceAction) (s : Service) : Prop where
  /-- Its answer is that of the gate; it changes the records as a failure does. -/
  answered : ∃ r, s.statements[requests before]? = some r ∧
    r.stage = .concluded (.error (Handler.gateError q.route.statement)) ∧
    emitted step (written (requests before)) s₀ (before ++ .enter q :: after) ++ r.owed =
      RecordChange.failing (Handler.gateError q.route.statement)
  /-- Its steps raise the two counters of failures by one each, and no other counter; what they have
  not raised yet it owes. -/
  counted : ∀ r, s.statements[requests before]? = some r → ∀ c,
    (emitted step (raised (requests before) c) s₀ (before ++ .enter q :: after)).sum +
      UInt64.ofNat (RecordChange.gained c r.owed) =
        if c = .statementsFailed ∨ c = .unsupported then 1 else 0
  /-- It can return without anybody else. -/
  returns : ∃ k s', s.run (List.replicate k (.write (requests before))) = some s' ∧
    ∃ r, s'.statements[requests before]? = some r ∧
      r.result? = some (.error (Handler.gateError q.route.statement))
  /-- Neither its entry nor any step of its own touches the engine, the tables, the shared
  transaction or the other counters. -/
  harmless : ∀ start a rest u u', before ++ .enter q :: after = start ++ a :: rest →
    start = before ∨ a.statement? = some (requests before) →
    s₀.run start = some u → u.step a = some u' → Harmless u u'

/-- What the gate's answer changes in the records. -/
theorem mem_failing_gateError {statement : Statement} {x : RecordChange}
    (h : x ∈ RecordChange.failing (Handler.gateError statement)) :
    x = .raise .statementsFailed 1 ∨ x = .raise .unsupported 1 ∨ ∃ line, x = .report line := by
  simp only [RecordChange.failing, RecordChange.raises, Counter.ofFailure, Handler.gateError,
    ExecutionError.kind, ErrorKind.counter?, Option.map_some, Option.toList_some, List.map_cons,
    List.map_nil, List.cons_append, List.nil_append, List.mem_cons, List.not_mem_nil,
    or_false] at h
  rcases h with rfl | rfl | rfl
  · exact .inl rfl
  · exact .inr (.inl rfl)
  · exact .inr (.inr ⟨_, rfl⟩)

/-- The gate's answer counts in two counters, once in each. -/
theorem gained_gateError (statement : Statement) (c : Counter) :
    RecordChange.gained c (RecordChange.failing (Handler.gateError statement)) =
      if c = .statementsFailed ∨ c = .unsupported then 1 else 0 := by
  rw [RecordChange.gained_failing]
  cases c <;> rfl

/-- A change that the gate's answer makes is harmless. -/
theorem harmless_of_failing (statement : Statement) {x : RecordChange} {r' : StatementRun}
    (h : x ∈ RecordChange.failing (Handler.gateError statement)) :
    Harmless s ({ s with records := s.records.change x }.setStatement n r') where
  engine := rfl
  tables := by
    rcases mem_failing_gateError h with rfl | rfl | ⟨line, rfl⟩
    · rfl
    · rfl
    · rfl
  transaction := rfl
  counters c hfailed hunsupported := by
    show (s.records.change x).metrics.read c = _
    rw [Records.read_change]
    rcases mem_failing_gateError h with rfl | rfl | ⟨line, rfl⟩
    · simp [RecordChange.gain, hfailed.symm]
    · simp [RecordChange.gain, hunsupported.symm]
    · simp [RecordChange.gain]

/-- Only a statement that there is takes a step. -/
theorem exists_of_statement? (ha : a.statement? = some n) (hs : s.step a = some s') :
    ∃ r, s.statements[n]? = some r := by
  cases moves_of_step hs with
  | transaction ha' _ | enters ha' _ =>
      subst ha'
      cases ha
  | engine ha' _ => rcases ha' with ⟨x, rfl⟩ | ⟨x, rfl⟩ <;> cases ha
  | statement hr hm _ =>
      obtain rfl := Option.some.inj (hm.statement?_eq.symm.trans ha)
      exact ⟨_, hr⟩

/-- A step of a statement that the gate has stopped is harmless: it makes one of the changes that
its answer calls for. -/
theorem harmless_of_gated
    (h : (new engine strategy type requestType records).run actions = some s)
    (hr : s.statements[n]? = some r) (hg : Handler.gated r.transaction r.route.statement = true)
    (ha : a.statement? = some n) (hstep : s.step a = some s') : Harmless s s' := by
  have hstage := ((booked_of_run h).fits r (List.mem_of_getElem? hr)).stage_of_settled
    (Handler.enter_of_gated r.route hg)
  cases moves_of_step hstep with
  | transaction ha' _ | enters ha' _ =>
      subst ha'
      cases ha
  | engine ha' _ => rcases ha' with ⟨x, rfl⟩ | ⟨x, rfl⟩ <;> cases ha
  | @statement m u t u' hu hm hs' =>
      obtain rfl : m = n := Option.some.inj (hm.statement?_eq.symm.trans ha)
      obtain rfl := Option.some.inj (hu.symm.trans hr)
      subst hs'
      cases hm with
      | @writes x owed ho =>
          have hwritten := written_append_owed h hr
          refine harmless_of_failing u.route.statement ?_
          rw [← StatementRun.due_of_gated hg, ← hwritten, ho]
          exact List.mem_append_right _ List.mem_cons_self
      | begins hs _ | concludes hs _ _ | leaves hs _ =>
          rw [hstage] at hs
          cases hs

variable {before after : List ServiceAction} {q : Http.ExecuteRequest}

/-- The statement that a request becomes which enters behind these actions. -/
theorem entered_of_run
    (h : (new engine strategy type requestType records).run (before ++ [.enter q]) = some s) :
    ∃ r, s.statements[requests before]? = some r ∧ r.route = q.route ∧
      r.transaction = effective type requestType before q ∧ r.Fits := by
  obtain ⟨t, ht, hstep⟩ := foldlM_concat_eq_some.mp h
  obtain ⟨htransaction, htype, hlength⟩ := shared_of_run ht
  cases hstep
  refine ⟨t.entering q, ?_, rfl, transaction_eq_effective q htransaction htype,
    (t.fits_entering q).1⟩
  rw [← hlength, enter_eq]
  simp

/-- A request is refused at once exactly when it is gated. -/
theorem refusedAtOnce_iff
    (h : (new engine strategy type requestType records).run (before ++ [.enter q]) = some s) :
    s.RefusedAtOnce (requests before) ↔ q.route.statement.kind = .ddl ∧
      (effective type requestType before q).type = .xa ∧
      (effective type requestType before q).active = true := by
  obtain ⟨t, ht, hstep⟩ := foldlM_concat_eq_some.mp h
  obtain ⟨htransaction, htype, hlength⟩ := shared_of_run ht
  cases hstep
  rw [← transaction_eq_effective q htransaction htype, ← Handler.gated_iff]
  have hentered : (t.enter q).statements[requests before]? = some (t.entering q) := by
    rw [← hlength, enter_eq]
    simp
  constructor
  · rintro ⟨r, e, hr, hs⟩
    obtain rfl := Option.some.inj (hentered.symm.trans hr)
    by_contra hg
    have hg : Handler.gated (q.transaction t.transaction t.requestType) q.route.statement = false :=
      by simpa using hg
    by_cases hu : q.route.units = []
    · simp [entering, Handler.enter_of_nil hg hu, Admission.stage] at hs
    · simp [entering, Handler.enter_of_passed hg hu, Admission.stage] at hs
  · intro hg
    refine ⟨t.entering q, Handler.gateError q.route.statement, hentered, ?_⟩
    simp [entering, Handler.enter_of_gated q.route hg, Admission.stage]

/-- A request that is gated when it enters is stopped, whatever happens behind it. -/
theorem stopped_of_gated
    (h : (new engine strategy type requestType records).run (before ++ .enter q :: after) = some s)
    (hg : Handler.gated (effective type requestType before q) q.route.statement = true) :
    Stopped (new engine strategy type requestType records) before q after s := by
  have hsplit : before ++ .enter q :: after = (before ++ [.enter q]) ++ after := by simp
  obtain ⟨t, ht, hafter⟩ := foldlM_append_eq_some.mp (hsplit ▸ h)
  obtain ⟨r₀, hr₀, hroute₀, htransaction₀, -⟩ := entered_of_run ht
  obtain ⟨r, hr, hroute, htransaction⟩ := kept_of_run hafter hr₀
  rw [hroute₀] at hroute
  rw [htransaction₀] at htransaction
  have hgated : Handler.gated r.transaction r.route.statement = true := by
    rw [hroute, htransaction]
    exact hg
  have hstage := ((booked_of_run h).fits r (List.mem_of_getElem? hr)).stage_of_settled
    (Handler.enter_of_gated r.route hgated)
  have hwritten := (written_append_owed h hr).trans (StatementRun.due_of_gated hgated)
  rw [hroute] at hstage hwritten
  refine ⟨⟨r, hr, hstage, hwritten⟩, fun r' hr' c => ?_, ⟨_, returns_of_concluded hr hstage⟩, ?_⟩
  · obtain rfl := Option.some.inj (hr.symm.trans hr')
    rw [sum_raised h, ← UInt64.ofNat_add, ← RecordChange.gained_append, hwritten, gained_gateError]
    split <;> rfl
  intro start a rest u u' heq hown hu hstep
  rcases hown with rfl | hown
  · obtain ⟨rfl, -⟩ := List.cons.inj (List.append_cancel_left heq)
    cases hstep
    exact ⟨rfl, rfl, rfl, fun _ _ _ => rfl⟩
  · obtain ⟨v, hv⟩ := exists_of_statement? hown hstep
    obtain ⟨u₁, hu₁, hrest⟩ := foldlM_append_eq_some.mp (heq ▸ h)
    obtain rfl := Option.some.inj (hu.symm.trans hu₁)
    obtain ⟨r', hr', hroute', htransaction'⟩ := kept_of_run hrest hv
    obtain rfl := Option.some.inj (hr.symm.trans hr')
    exact harmless_of_gated hu hv (hroute' ▸ htransaction' ▸ hgated) hown hstep

/-- **The gate over whole histories.** In every history a request is stopped when it enters exactly
if it changes tables while the transaction that it effectively runs in is distributed and active;
that transaction is its own, or the shared one as its moves so far have left it. Stopping it does no
more than answer it and count it as one failure, and one of the unsupported kind. -/
theorem gate_stops_exactly
    (h : (new engine strategy type requestType records).run (before ++ .enter q :: after) =
      some s) :
    s.transaction = sharedBehind type (before ++ .enter q :: after) ∧
    (∃ t, (new engine strategy type requestType records).run (before ++ [.enter q]) = some t ∧
      (t.RefusedAtOnce (requests before) ↔ q.route.statement.kind = .ddl ∧
        (effective type requestType before q).type = .xa ∧
        (effective type requestType before q).active = true)) ∧
    (q.route.statement.kind = .ddl → (effective type requestType before q).type = .xa →
      (effective type requestType before q).active = true →
      Stopped (new engine strategy type requestType records) before q after s ∧
      ∀ c, RecordChange.gained c (RecordChange.failing (Handler.gateError q.route.statement)) =
        if c = .statementsFailed ∨ c = .unsupported then 1 else 0) := by
  have hsplit : before ++ .enter q :: after = (before ++ [.enter q]) ++ after := by simp
  obtain ⟨t, ht, -⟩ := foldlM_append_eq_some.mp (hsplit ▸ h)
  refine ⟨(shared_of_run h).1, ⟨t, ht, refusedAtOnce_iff ht⟩, fun hkind hxa hactive => ⟨?_,
    gained_gateError q.route.statement⟩⟩
  exact stopped_of_gated h (Handler.gated_iff.mpr ⟨hkind, hxa, hactive⟩)

/-- A request to change a table, without units and without a transaction of its own. -/
def changesTable : Http.ExecuteRequest := ⟨.ofStatement ⟨.ddl, ["t"], false⟩, none⟩

/-- A service over channels whose statements share a distributed transaction. -/
def overChannels : Service :=
  new (.forward (.new ⟨.ofSeconds 30, none, false⟩)) .concatenate .xa .local .empty

/-- What happens before the request: the shared transaction begins, and the same request comes with
a transaction of its own, which is local. -/
def beganWithLocal : List ServiceAction :=
  [.transaction .begin, .enter ⟨changesTable.route, some ⟨none, true⟩⟩]

/-- What happens behind the request: the shared transaction ends, and the same request comes
again. -/
def endedAndAgain : List ServiceAction :=
  [.write 1, .transaction .commit, .write 1, .enter changesTable]

/-- A request without units is stopped while the shared transaction is active, though one with a
transaction of its own has passed, and passes itself behind the end of the shared one. -/
theorem gate_stops_exactly_while_active : ∃ s t,
    overChannels.run (beganWithLocal ++ .enter changesTable :: endedAndAgain) = some s ∧
    overChannels.run (beganWithLocal ++ [.enter changesTable]) = some t ∧
    ¬ t.RefusedAtOnce 0 ∧ t.RefusedAtOnce 1 ∧ ¬ s.RefusedAtOnce 2 ∧
    Stopped overChannels beganWithLocal changesTable endedAndAgain s := by
  have hrun : ∃ s, overChannels.run (beganWithLocal ++ .enter changesTable :: endedAndAgain) =
      some s ∧ ¬ s.RefusedAtOnce 2 := by
    refine ⟨_, rfl, ?_⟩
    rintro ⟨r, e, hr, hs⟩
    cases hr
    cases hs
  obtain ⟨s, hs, hagain⟩ := hrun
  obtain ⟨-, ⟨t, ht, hiff⟩, hstopped⟩ := gate_stops_exactly hs
  have hlocal : ¬ t.RefusedAtOnce 0 := by
    cases ht
    rintro ⟨r, e, hr, hs⟩
    cases hr
    cases hs
  exact ⟨s, t, hs, ht, hlocal, hiff.mpr ⟨rfl, rfl, rfl⟩, hagain, (hstopped rfl rfl rfl).1⟩

end Service

end ScatterGather
