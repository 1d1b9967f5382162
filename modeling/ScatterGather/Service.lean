import ScatterGather.Engine
import ScatterGather.Handler
import ScatterGather.Http.Router

/-!
# All statements of an engine

A `Service` is an engine with the statements that are executed with it side by side, the records
they share, and the transaction of those that come without one of their own. `Service.step` says
what can happen next: a statement enters in the transaction of this moment, makes a change of the
records that it owes, begins its call of the engine, or takes what the call gave; and the engine and
the transaction go on meanwhile. `Service.next?` is what a statement goes on with by itself.
-/

namespace ScatterGather

/-- Where a statement stands. -/
inductive StatementStage where
  /-- It goes on to the dispatch. -/
  | admitted
  /-- Its call of the engine is under way. -/
  | dispatched (call : Nat)
  | concluded (result : StatementResult)
  /-- Its call broke or was given up. -/
  | dropped

/-- A statement that has entered. -/
structure StatementRun where
  route : Route
  /-- The transaction it has entered in. -/
  transaction : Transaction
  stage : StatementStage
  /-- The changes of the records that it has still to make, in their order. -/
  owed : List RecordChange

namespace StatementRun

/-- What a statement gave: it has come to its result, and owes nothing any more. -/
def result? (r : StatementRun) : Option StatementResult :=
  match r.stage, r.owed with
  | .concluded result, [] => some result
  | _, _ => none

/-- The statement has been given up. -/
def isDropped (r : StatementRun) : Bool :=
  match r.stage with
  | .dropped => true
  | _ => false

/-- The call of a statement that is dispatched. -/
def call? (r : StatementRun) : Option Nat :=
  match r.stage with
  | .dispatched call => some call
  | _ => none

end StatementRun

/-- The stage at which a statement enters. -/
def Admission.stage : Admission → StatementStage
  | .settled result => .concluded result
  | .dispatch => .admitted

/-- An engine and its statements. -/
structure Service where
  engine : Engine
  strategy : MergeStrategy
  /-- The type of a transaction that a statement brings without naming it. -/
  requestType : TransactionType
  /-- The transaction of statements that bring none. -/
  transaction : Transaction
  records : Records
  /-- The statements, numbered in the order in which they entered. -/
  statements : List StatementRun

/-- What can happen next. -/
inductive ServiceAction where
  /-- The transaction of statements that bring none begins or ends. -/
  | transaction (m : Transaction.Move)
  /-- A statement enters. -/
  | enter (q : Http.ExecuteRequest)
  /-- A statement makes the next change that it owes. -/
  | write (number : Nat)
  /-- A statement begins its call of the engine. -/
  | dispatch (number : Nat)
  /-- A statement takes what its call gave. -/
  | conclude (number : Nat)
  /-- An engine over connections goes on. -/
  | connection (a : ConnectionAction)
  /-- An engine over channels goes on. -/
  | forward (a : ForwardAction)

namespace Service

/-- No statement has entered yet, and no transaction begun. -/
def new (engine : Engine) (strategy : MergeStrategy) (type requestType : TransactionType)
    (records : Records) : Service :=
  ⟨engine, strategy, requestType, .ofType type, records, []⟩

/-- Puts a statement in the place of what it was. -/
def setStatement (s : Service) (number : Nat) (r : StatementRun) : Service :=
  { s with statements := s.statements.set number r }

/-- A statement enters. -/
def enter (s : Service) (q : Http.ExecuteRequest) : Service :=
  let transaction := q.transaction s.transaction s.requestType
  let (admission, owed) := Handler.enter transaction q.route
  { s with statements := s.statements ++ [⟨q.route, transaction, admission.stage, owed⟩] }

/-- A statement makes a change. -/
def write (s : Service) (number : Nat) (r : StatementRun) : Option Service :=
  match r.owed with
  | [] => none
  | c :: owed => some ({ s with records := s.records.change c }.setStatement number { r with owed })

/-- A statement that owes nothing begins its call. -/
def dispatch (s : Service) (number : Nat) (r : StatementRun) : Option Service :=
  match r.stage, r.owed with
  | .admitted, [] =>
    let engine := s.engine.begin r.route r.route.statement.returnsGeneratedKeys
    some ({ s with engine }.setStatement number
      { r with stage := .dispatched s.engine.callCount })
  | _, _ => none

/-- A statement takes how its call has ended. -/
def conclude (s : Service) (number : Nat) (r : StatementRun) : CallEnd → Service
  | .result response =>
    let (result, owed) := Handler.conclude s.strategy r.route.statement response
    s.setStatement number { r with stage := .concluded result, owed }
  | .broken | .dropped => s.setStatement number { r with stage := .dropped }

/-- One step; `none` when it is not possible. -/
def step (s : Service) : ServiceAction → Option Service
  | .transaction m => some { s with transaction := s.transaction.moved m }
  | .enter q => some (s.enter q)
  | .write number => do s.write number (← s.statements[number]?)
  | .dispatch number => do s.dispatch number (← s.statements[number]?)
  | .conclude number => do
    let r ← s.statements[number]?
    return s.conclude number r (← s.engine.ending? (← r.call?))
  | .connection a => do return { s with engine := ← s.engine.stepConnection? a }
  | .forward a => do return { s with engine := ← s.engine.stepForward? a }

/-- Steps in order; `none` when one is not possible. -/
def run (s : Service) (actions : List ServiceAction) : Option Service := actions.foldlM step s

/-- What a statement goes on with by itself; `none` when it is over. It can take what its call gave
only once the call has ended. -/
def next? (s : Service) (number : Nat) : Option ServiceAction := do
  match (← s.statements[number]?) with
  | ⟨_, _, _, _ :: _⟩ => some (.write number)
  | ⟨_, _, .admitted, []⟩ => some (.dispatch number)
  | ⟨_, _, .dispatched _, []⟩ => some (.conclude number)
  | _ => none

/-- The same service without what is past, when nothing is under way. -/
def forgetPast (s : Service) : Service :=
  { s with engine := s.engine.forgetPast, statements := [] }

end Service

end ScatterGather
