import ScatterGather.Merge.Strategy
import ScatterGather.Route.Basic

/-!
# How connections are used

Either every row result is read into memory at once, so that one connection serves the units of a
data source in turn; or the rows are handed on as they come, with a fetch size.
-/

namespace ScatterGather

/-- The way of using connections, as configured. -/
inductive ConnectionMode where
  | connectionStrictly
  | memoryStrictly
deriving DecidableEq, Inhabited, Repr

instance : Named ConnectionMode where
  all := [.connectionStrictly, .memoryStrictly]
  name
    | .connectionStrictly => "connection_strictly"
    | .memoryStrictly => "memory_strictly"

/-- What is asked of a connection beside a statement. -/
structure StatementOptions where
  returnGeneratedKeys : Bool
  captureMetadata : Bool
  fetchSize : Option UInt32
deriving DecidableEq, Inhabited, Repr

/-- A way of using connections, with the fetch size where there is one. -/
inductive ConnectionStrategy where
  | connectionStrictly
  | memoryStrictly (fetchSize : UInt32)
deriving DecidableEq, Inhabited, Repr

namespace ConnectionStrategy

/-- The strategy of a mode. -/
def ofMode (mode : ConnectionMode) (fetchSize : UInt32) : ConnectionStrategy :=
  match mode with
  | .connectionStrictly => .connectionStrictly
  | .memoryStrictly => .memoryStrictly fetchSize

/-- The name of a strategy. -/
def name : ConnectionStrategy → String
  | .connectionStrictly => Named.name ConnectionMode.connectionStrictly
  | .memoryStrictly _ => Named.name ConnectionMode.memoryStrictly

/-- The fetch size of a strategy. -/
def fetchSize? : ConnectionStrategy → Option UInt32
  | .connectionStrictly => none
  | .memoryStrictly n => some n

/-- What is asked of a connection beside the statement of a unit. -/
def options (s : ConnectionStrategy) (u : PhysicalUnit) (captureMetadata : Bool) :
    StatementOptions :=
  ⟨u.returnGeneratedKeys, captureMetadata, s.fetchSize?⟩

/-- The rows of a unit as they are kept until all units have answered, as far as there is room for
them. -/
def wrap (s : ConnectionStrategy) (rows : UnitCursor) : Except ExecutionError UnitCursor :=
  match s with
  | .connectionStrictly => UnitCursor.ofMemory <$> MemoryCursor.read rows
  | .memoryStrictly _ => .ok rows

/-- The rows of a unit as they are kept until all units have answered. -/
def retain (s : ConnectionStrategy) (rows : UnitCursor) :
    Except MemoryCursor.Failure UnitCursor :=
  match s with
  | .connectionStrictly => UnitCursor.ofMemory <$> MemoryCursor.load rows
  | .memoryStrictly _ => .ok rows

end ConnectionStrategy

end ScatterGather
