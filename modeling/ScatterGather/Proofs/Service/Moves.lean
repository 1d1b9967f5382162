import ScatterGather.Proofs.Run
import ScatterGather.Service

/-!
# What a service can do in one step

A step of a `Service` moves the transaction, lets a statement enter, is a step of one statement
(`StatementRun.Moves`), or is a step of the engine alone (`Service.Moves`). A statement keeps its
number, its route and the transaction in which it has entered. Everything that is proved about
services goes through `Service.moves_of_step` and never opens the step again.
-/

namespace ScatterGather

namespace ServiceAction

/-- The request that enters by an action. -/
def request? : ServiceAction → Option Http.ExecuteRequest
  | .enter q => some q
  | _ => none

/-- The statement of which an action is a step. -/
def statement? : ServiceAction → Option Nat
  | .write n | .dispatch n | .conclude n => some n
  | _ => none

/-- The move of the transaction that an action is. -/
def move? : ServiceAction → Option Transaction.Move
  | .transaction m => some m
  | _ => none

end ServiceAction

/-! ### The moves of a statement -/

/-- The next step of a statement: the action, the service with what the statement does to its engine
and records, and the statement behind it. -/
inductive StatementRun.Moves (s : Service) (n : Nat) (r : StatementRun) :
    ServiceAction → Service → StatementRun → Prop where
  | writes {c owed} (ho : r.owed = c :: owed) :
    Moves s n r (.write n) { s with records := s.records.change c } { r with owed }
  | begins (hs : r.stage = .admitted) (ho : r.owed = []) :
    Moves s n r (.dispatch n)
      { s with engine := s.engine.begin r.route r.route.statement.returnsGeneratedKeys }
      { r with stage := .dispatched s.engine.callCount }
  | concludes {call response result owed} (hs : r.stage = .dispatched call)
    (he : s.engine.ending? call = some (.result response))
    (hc : Handler.conclude s.strategy r.route.statement response = (result, owed)) :
    Moves s n r (.conclude n) s { r with stage := .concluded result, owed }
  | leaves {call how} (hs : r.stage = .dispatched call) (he : s.engine.ending? call = some how) :
    Moves s n r (.conclude n) s { r with stage := .dropped }

/-- A statement has a call while it is dispatched. -/
theorem StatementRun.call?_eq_some {r : StatementRun} {call : Nat} :
    r.call? = some call ↔ r.stage = .dispatched call := by
  unfold call?
  split <;> simp_all

namespace StatementRun

variable {s t : Service} {n : Nat} {a : ServiceAction} {r r' : StatementRun}

/-- A step of a statement bears its number. -/
theorem Moves.statement?_eq (h : r.Moves s n a t r') : a.statement? = some n := by
  cases h <;> rfl

/-- A statement keeps its route. -/
theorem Moves.route_eq (h : r.Moves s n a t r') : r'.route = r.route := by
  cases h <;> rfl

/-- A statement keeps the transaction in which it has entered. -/
theorem Moves.transaction_eq (h : r.Moves s n a t r') : r'.transaction = r.transaction := by
  cases h <;> rfl

/-- What a statement does to a service leaves the statements and the transaction to others. -/
theorem Moves.kept (h : r.Moves s n a t r') :
    t.statements = s.statements ∧ t.transaction = s.transaction ∧
      t.requestType = s.requestType := by
  cases h <;> exact ⟨rfl, rfl, rfl⟩

end StatementRun

namespace Service

/-! ### The moves of a service -/

/-- What an action does to a service. -/
inductive Moves (s : Service) (a : ServiceAction) (s' : Service) : Prop where
  | transaction {m} (ha : a = .transaction m)
    (hs : s' = { s with transaction := s.transaction.moved m })
  | enters {q} (ha : a = .enter q) (hs : s' = s.enter q)
  | statement {n} {r : StatementRun} {t : Service} {r'} (hr : s.statements[n]? = some r)
    (hm : r.Moves s n a t r')
    (hs : s' = t.setStatement n r')
  | engine {e} (ha : (∃ x, a = .connection x) ∨ ∃ x, a = .forward x)
    (hs : s' = { s with engine := e })

variable {s s' : Service} {a : ServiceAction} {n : Nat} {r : StatementRun}

/-- A statement makes the first change that it owes. -/
theorem moves_of_write (hr : s.statements[n]? = some r) (h : s.write n r = some s') :
    s.Moves (.write n) s' := by
  unfold write at h
  split at h
  · cases h
  · next ho =>
      cases h
      exact .statement hr (.writes ho) rfl

/-- A statement begins its call when it is admitted and owes nothing. -/
theorem moves_of_dispatch (hr : s.statements[n]? = some r) (h : s.dispatch n r = some s') :
    s.Moves (.dispatch n) s' := by
  unfold dispatch at h
  split at h
  · next hs ho =>
      cases h
      exact .statement hr (.begins hs ho) rfl
  · cases h

/-- A statement takes what its call gave, or leaves without it. -/
theorem moves_of_conclude {call : Nat} {how : CallEnd} (hr : s.statements[n]? = some r)
    (hs : r.stage = .dispatched call) (he : s.engine.ending? call = some how) :
    s.Moves (.conclude n) (s.conclude n r how) := by
  cases how with
  | result response => exact .statement hr (.concludes hs he rfl) rfl
  | broken => exact .statement hr (.leaves hs he) rfl
  | dropped => exact .statement hr (.leaves hs he) rfl

/-- **Every step of a service is one of its moves.** -/
theorem moves_of_step (h : s.step a = some s') : s.Moves a s' := by
  cases a with
  | transaction m =>
      cases h
      exact .transaction rfl rfl
  | enter q =>
      cases h
      exact .enters rfl rfl
  | write n =>
      obtain ⟨r, hr, h⟩ := Option.bind_eq_some_iff.mp h
      exact moves_of_write hr h
  | dispatch n =>
      obtain ⟨r, hr, h⟩ := Option.bind_eq_some_iff.mp h
      exact moves_of_dispatch hr h
  | conclude n =>
      obtain ⟨r, hr, h⟩ := Option.bind_eq_some_iff.mp h
      obtain ⟨call, hcall, h⟩ := Option.bind_eq_some_iff.mp h
      obtain ⟨how, hend, h⟩ := Option.bind_eq_some_iff.mp h
      cases h
      exact moves_of_conclude hr (StatementRun.call?_eq_some.mp hcall) hend
  | connection x =>
      obtain ⟨e, -, h⟩ := Option.bind_eq_some_iff.mp h
      cases h
      exact .engine (.inl ⟨x, rfl⟩) rfl
  | forward x =>
      obtain ⟨e, -, h⟩ := Option.bind_eq_some_iff.mp h
      cases h
      exact .engine (.inr ⟨x, rfl⟩) rfl

/-! ### What becomes of a statement -/

/-- The statement that a request becomes when it enters. -/
def entering (s : Service) (q : Http.ExecuteRequest) : StatementRun :=
  let transaction := q.transaction s.transaction s.requestType
  let (admission, owed) := Handler.enter transaction q.route
  ⟨q.route, transaction, admission.stage, owed⟩

theorem enter_eq (s : Service) (q : Http.ExecuteRequest) :
    s.enter q = { s with statements := s.statements ++ [s.entering q] } := rfl

/-- A statement keeps its number, and stays as it is or moves. -/
theorem Moves.statement_behind (h : s.Moves a s') (hr : s.statements[n]? = some r) :
    ∃ r', s'.statements[n]? = some r' ∧ (r' = r ∨ ∃ t, r.Moves s n a t r') := by
  cases h with
  | transaction _ hs | engine _ hs =>
      subst hs
      exact ⟨r, hr, .inl rfl⟩
  | @enters q _ hs =>
      subst hs
      exact ⟨r, getElem?_append_of_eq_some hr, .inl rfl⟩
  | @statement m u t u' hu hm hs =>
      have hstatements : s'.statements = s.statements.set m u' := by
        rw [hs, setStatement, hm.kept.1]
      by_cases hmn : m = n
      · subst hmn
        obtain rfl := Option.some.inj (hu.symm.trans hr)
        refine ⟨u', ?_, .inr ⟨t, hm⟩⟩
        rw [hstatements, List.getElem?_set_self (List.getElem?_eq_some_iff.mp hr).1]
      · exact ⟨r, by rw [hstatements, List.getElem?_set_ne hmn, hr], .inl rfl⟩

/-! ### What stays as it is -/

/-- Only a request that enters adds a statement. -/
theorem Moves.length_eq (h : s.Moves a s') :
    s'.statements.length = s.statements.length + a.request?.toList.length := by
  cases h with
  | transaction ha hs | enters ha hs =>
      rw [ha, hs]
      simp [enter_eq, ServiceAction.request?]
  | engine ha hs =>
      rw [hs]
      rcases ha with ⟨x, rfl⟩ | ⟨x, rfl⟩ <;> rfl
  | statement _ hm hs =>
      rw [hs, setStatement, hm.kept.1, List.length_set]
      cases hm <;> rfl

/-- The type that a transaction has which a statement brings without naming it stays. -/
theorem Moves.requestType_eq (h : s.Moves a s') : s'.requestType = s.requestType := by
  cases h with
  | transaction _ hs | enters _ hs | engine _ hs => exact hs ▸ rfl
  | statement _ hm hs => exact hs ▸ hm.kept.2.2

end Service

end ScatterGather
