import ScatterGather.Http.ContentType
import ScatterGather.Http.Response
import ScatterGather.Json.Reader

/-!
# Requests and where they go

Three paths are served: statements to be executed, the health of the engine, and its counters. A
statement comes with its units, and with the transaction of its session when there is one: no
request knows of another.
-/

namespace ScatterGather.Http

/-- The longest body that is read, in bytes. -/
def maxBody : Nat := 2097152

/-- A request. -/
structure Request where
  method : String
  /-- The path, with the query if there is one. -/
  target : String
  contentType : Option String
  body : String
deriving Inhabited

/-- The path of a target. -/
def Request.path (q : Request) : String :=
  String.ofList (q.target.toList.takeWhile fun c => c ≠ '?' && c ≠ '#')

/-- The transaction of the session a statement comes from. -/
structure SessionState where
  type : Option TransactionType
  active : Bool
deriving Inhabited

namespace SessionState

/-- The transaction; the one whose type is not named has the default type. -/
def transaction (s : SessionState) (default : TransactionType) : Transaction :=
  let t := Transaction.ofType (s.type.getD default)
  if s.active then t.begin else t

/-- A state that is being read. -/
structure Draft where
  type : Option (Option TransactionType) := none
  active : Option Bool := none

/-- The fields of a state. -/
def fields (r : Reading) : List (Field Draft) :=
  [.of "type" (·.type) (fun s v => { s with type := some v })
    (Document.readOption (Named.ofDocument r)),
   .of "active" (·.active) (fun s v => { s with active := some v }) Document.readBool]

/-- Reads a state. -/
def ofDocument (r : Reading) (d : Document) : Except Fault SessionState := do
  let s ← Fields.read (fields r) {} d
  return ⟨s.type.getD none, s.active.getD false⟩

end SessionState

/-- A statement to be executed. -/
structure ExecuteRequest where
  route : Route
  session : Option SessionState
deriving Inhabited

namespace ExecuteRequest

/-- The transaction a statement runs in: its own, or that of the engine. -/
def transaction (q : ExecuteRequest) (engine : Transaction) (default : TransactionType) :
    Transaction :=
  match q.session with
  | some s => s.transaction default
  | none => engine

/-- A request that is being read. -/
structure Draft where
  statement : Option Statement := none
  units : Option (List RouteUnit) := none
  session : Option (Option SessionState) := none

/-- The fields of a request. -/
def fields (r : Reading) : List (Field Draft) :=
  [.of "statement" (·.statement) (fun s v => { s with statement := some v })
    (Statement.ofDocument r),
   .of "units" (·.units) (fun s v => { s with units := some v })
    (Document.readList RouteUnit.ofDocument),
   .of "transaction" (·.session) (fun s v => { s with session := some v })
    (Document.readOption (SessionState.ofDocument r))]

/-- Reads a request. -/
def ofDocument (r : Reading) (d : Document) : Except Fault ExecuteRequest := do
  let s ← Fields.read (fields r) {} d
  return ⟨⟨← Fields.need s.statement, s.units.getD []⟩, s.session.getD none⟩

/-- Reads the body of a request. -/
def ofBody (body : String) : Except Fault ExecuteRequest :=
  Json.readRecord (ofDocument Json.reading) body

end ExecuteRequest

/-- What becomes of a request. -/
inductive Destination where
  /-- It is answered already. -/
  | answered (r : Response)
  /-- It asks for the health of the engine, perhaps without the body. -/
  | health (headOnly : Bool)
  /-- It asks for the counters, perhaps without the body. -/
  | metrics (headOnly : Bool)
  | execute (q : ExecuteRequest)

/-- A path that can only be read. -/
def readOnly (method : String) (destination : Bool → Destination) : Destination :=
  if method = "GET" then destination false
  else if method = "HEAD" then destination true
  else .answered (.methodNotAllowed "GET,HEAD")

/-- A statement that is sent in. -/
def execute (q : Request) : Destination :=
  if q.method ≠ "POST" then .answered (.methodNotAllowed "POST")
  else if !(q.contentType.map isJson).getD false then .answered .wrongType
  else if maxBody < q.body.utf8ByteSize then .answered .tooLong
  else
    match ExecuteRequest.ofBody q.body with
    | .ok r => .execute r
    | .error fault => .answered (.ofFault fault)

/-- Where a request goes. -/
def route (q : Request) : Destination :=
  if q.path = "/_api/execute" then execute q
  else if q.path = "/_api/health" then readOnly q.method .health
  else if q.path = "/metrics" then readOnly q.method .metrics
  else .answered .notFound

end ScatterGather.Http
