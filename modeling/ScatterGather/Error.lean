import ScatterGather.Cell.Convert
import ScatterGather.Document.Record
import ScatterGather.Duration
import ScatterGather.Json.Printer

/-!
# Failures of an execution

An `ExecutionError` is the cause of a failed statement: what a data source reported, a deadline, a
resource, something not supported, a call in the wrong state, or a task that broke. The wording is
in the `message` functions alone; `kind` is the flat classification that metrics and answers use.
-/

namespace ScatterGather

/-- What a data source reports about a statement that failed there. -/
structure DriverCause where
  /-- The vendor's error code, when there is one. -/
  code : Option UInt16
  /-- The five-character state, when there is one. -/
  sqlState : Option String
  message : String
deriving DecidableEq, Inhabited, Repr

namespace DriverCause

/-- A cause without code and state. -/
def ofMessage (message : String) : DriverCause := ⟨none, none, message⟩

/-- The same cause with a code and a state. -/
def withCode (c : DriverCause) (code : UInt16) (sqlState : String) : DriverCause :=
  { c with code := some code, sqlState := some sqlState }

/-- The text of a cause: the code in front, and the state behind the code, as far as there is a
code. -/
def text (c : DriverCause) : String :=
  match c.code, c.sqlState with
  | some code, some state => "[" ++ toString code.toNat ++ " (" ++ state ++ ")] " ++ c.message
  | some code, none => "[" ++ toString code.toNat ++ "] " ++ c.message
  | none, _ => c.message

/-- The written form of a cause. -/
def toDocument (c : DriverCause) : Document :=
  .record (Document.optionalField "code" (fun n : UInt16 => .ofNat n.toNat) c.code
    ++ Document.optionalField "sql_state" .text c.sqlState ++ [("message", .text c.message)])

/-- A cause that is being read. -/
structure Draft where
  code : Option (Option UInt16) := none
  sqlState : Option (Option String) := none
  message : Option String := none

/-- The fields of a cause. -/
def fields : List (Field Draft) :=
  [.of "code" (·.code) (fun s v => { s with code := some v })
    (Document.readOption Document.readUInt16),
   .of "sql_state" (·.sqlState) (fun s v => { s with sqlState := some v })
    (Document.readOption Document.readText),
   .of "message" (·.message) (fun s v => { s with message := some v }) Document.readText]

/-- Reads a cause. -/
def ofDocument (d : Document) : Except Fault DriverCause := do
  let s ← Fields.read fields {} d
  return ⟨s.code.getD none, s.sqlState.getD none, ← Fields.need s.message⟩

instance : Written DriverCause := ⟨toDocument, fun _ => ofDocument⟩

/-- The debug text of a cause. -/
def debug (c : DriverCause) : String :=
  Text.debugRecord "DriverCause"
    [("code", Text.debugOption (fun n : UInt16 => toString n.toNat) c.code),
     ("sql_state", Text.debugOption Text.quoted c.sqlState), ("message", Text.quoted c.message)]

end DriverCause

/-- A resource that could not be had. -/
inductive ResourceFault where
  | unknownSource (name : String)
  | unreachable (name : String)
  | cannotConnect (name address reason : String)
  | connectTimeout (name address : String) (waited : Duration)
  | noHandshake (name reason : String)
  | reported (message : String)

/-- Something the engine does not do. -/
inductive UnsupportedFault where
  | ddlInTransaction (table : Option String)
  | merge (results columns : Nat) (table : Option String)
  | reported (message : String)

/-- A call that the state of its object does not allow. -/
inductive StateFault where
  | noMetadata
  | readBeforeAdvance
  | readAfterEnd
  | columnOutOfRange (index columns : Nat)
  | unreadableAs (column : Nat) (cell : Cell) (target : Target) (mismatch : Mismatch)
  | updateHasNoRows
  | updateHasNoValues
  | cursorNotOnRow
  | mergedNotOnRow
  | noGroups
  | waitExists (id : UInt64)
  | noWait (id : UInt64)
  | alreadyAwaited (id : UInt64)
  | repliesIncomplete (id : UInt64) (units : Nat)
  | wrongReply (name : String) (asked answered : UInt64)
  | reported (message : String)

/-- A failure that fits no other kind. -/
inductive UnknownFault where
  | taskPanicked (message : String)
  | taskCancelled
  | reported (message : String)

/-- Why a statement failed. -/
inductive ExecutionError where
  | driver (dataSource : String) (cause : DriverCause)
  | timeout (correlationId : UInt64) (waited : Duration) (received expected : Nat)
  | resource (fault : ResourceFault)
  | unsupported (fault : UnsupportedFault)
  | invalidState (fault : StateFault)
  | unknown (fault : UnknownFault)

instance : Inhabited ExecutionError := ⟨.unknown (.reported "")⟩

/-- The kinds of failures. -/
inductive ErrorKind where
  | driver
  | timeout
  | resource
  | unsupported
  | invalidState
  | unknown
deriving DecidableEq, Inhabited, Repr

/-- The name of a kind in answers and logs. -/
def ErrorKind.name : ErrorKind → String
  | .driver => "driver_error"
  | .timeout => "timeout"
  | .resource => "resource_error"
  | .unsupported => "unsupported"
  | .invalidState => "invalid_state"
  | .unknown => "unknown_error"

/-- The wording of a resource fault. -/
def ResourceFault.message : ResourceFault → String
  | .unknownSource name => "unknown data source '" ++ name ++ "'"
  | .unreachable name => "cannot reach '" ++ name ++ "'"
  | .cannotConnect name address reason =>
    "cannot connect to data source '" ++ name ++ "' at " ++ address ++ ": " ++ reason
  | .connectTimeout name address waited =>
    "connecting to data source '" ++ name ++ "' at " ++ address ++ " timed out after "
      ++ waited.text
  | .noHandshake name reason =>
    "handshake with data source '" ++ name ++ "' failed: " ++ reason
  | .reported message => message

/-- The wording of an unsupported operation. -/
def UnsupportedFault.message : UnsupportedFault → String
  | .ddlInTransaction table =>
    "DDL on table '" ++ table.getD "unknown_table" ++ "' is not allowed inside an XA transaction"
  | .merge results columns table =>
    s!"merge of {results} results with {columns} columns over " ++ table.getD "nothing"
  | .reported message => message

/-- The wording of a call in the wrong state. -/
def StateFault.message : StateFault → String
  | .noMetadata => "no unit reported result metadata"
  | .readBeforeAdvance => "value read before the first advance"
  | .readAfterEnd => "value read after the cursor was exhausted"
  | .columnOutOfRange index columns =>
    s!"column index {index} out of range ({columns} columns)"
  | .unreadableAs column cell target mismatch =>
    s!"column {column} holds " ++ Json.printCell cell ++ " which cannot be read as "
      ++ target.name ++ ": " ++ mismatch.message
  | .updateHasNoRows => "update results have no rows to advance over"
  | .updateHasNoValues => "update results have no row values"
  | .cursorNotOnRow => "cursor is not positioned on a row"
  | .mergedNotOnRow => "merged cursor is not positioned on a row"
  | .noGroups => "route has units but no groups"
  | .waitExists id => s!"correlation id {id} already has a pending wait"
  | .noWait id => s!"no pending wait registered for correlation id {id}"
  | .alreadyAwaited id => s!"correlation id {id} is already being awaited"
  | .repliesIncomplete id units => s!"replies for {id} do not cover unit indexes 0..{units}"
  | .wrongReply name asked answered =>
    "data source '" ++ name ++ s!"' answered request {asked} with reply {answered}"
  | .reported message => message

/-- The wording of an unknown failure. -/
def UnknownFault.message : UnknownFault → String
  | .taskPanicked message =>
    "unit group task failed: task N panicked with message " ++ Text.quoted message
  | .taskCancelled => "unit group task failed: task N was cancelled"
  | .reported message => message

namespace ExecutionError

/-- The kind of a failure. -/
def kind : ExecutionError → ErrorKind
  | .driver .. => .driver
  | .timeout .. => .timeout
  | .resource _ => .resource
  | .unsupported _ => .unsupported
  | .invalidState _ => .invalidState
  | .unknown _ => .unknown

/-- The text of a failure. -/
def message : ExecutionError → String
  | .driver dataSource cause => "Driver error on data source '" ++ dataSource ++ "': " ++ cause.text
  | .timeout id waited received expected =>
    "Timed out after " ++ waited.text
      ++ s!" waiting for backend replies (correlation id {id}, received {received}/{expected})"
  | .resource fault => "Resource error: " ++ fault.message
  | .unsupported fault => "Operation not supported: " ++ fault.message
  | .invalidState fault => "Invalid state: " ++ fault.message
  | .unknown fault => "Unknown error: " ++ fault.message

/-- What the data source reported, for a failure of a data source. -/
def cause? : ExecutionError → Option DriverCause
  | .driver _ cause => some cause
  | _ => none

end ExecutionError

end ScatterGather
