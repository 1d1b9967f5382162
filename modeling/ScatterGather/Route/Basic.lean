import ScatterGather.Route.Statement

/-!
# Routes and their groups

A route is a statement together with the physical statements it was split into, each bound to one
data source. For dispatch the units are grouped by data source, groups in the order in which their
sources first appear and units in route order inside a group, and numbered through: the index of a
unit is its place in the sequence of all groups. So index 0 is the first unit of the first group.
-/

namespace ScatterGather

/-- One physical statement bound to a data source. -/
structure RouteUnit where
  dataSource : String
  sql : String
deriving DecidableEq, Inhabited, Repr

/-- A statement and the units it was split into. -/
structure Route where
  statement : Statement
  units : List RouteUnit
deriving DecidableEq, Inhabited, Repr

/-- A unit with its place in dispatch order. -/
structure PhysicalUnit where
  index : Nat
  dataSource : String
  sql : String
  returnGeneratedKeys : Bool
deriving DecidableEq, Inhabited, Repr

/-- The units of one data source, to be executed in turn. -/
structure UnitGroup where
  dataSource : String
  units : List PhysicalUnit
deriving DecidableEq, Inhabited, Repr

namespace RouteUnit

/-- The written form of a unit. -/
def toDocument (u : RouteUnit) : Document :=
  .record [("data_source", .text u.dataSource), ("sql", .text u.sql)]

/-- A unit that is being read. -/
structure Draft where
  dataSource : Option String := none
  sql : Option String := none

/-- The fields of a unit. -/
def fields : List (Field Draft) :=
  [.of "data_source" (·.dataSource) (fun s v => { s with dataSource := some v })
    Document.readText,
   .of "sql" (·.sql) (fun s v => { s with sql := some v }) Document.readText]

/-- Reads a unit. -/
def ofDocument (d : Document) : Except Fault RouteUnit := do
  let s ← Fields.read fields {} d
  return ⟨← Fields.need s.dataSource, ← Fields.need s.sql⟩

instance : Written RouteUnit := ⟨toDocument, fun _ => ofDocument⟩

end RouteUnit

namespace Route

/-- A route without units. -/
def ofStatement (s : Statement) : Route := ⟨s, []⟩

/-- The same route with one more unit behind the others. -/
def withUnit (r : Route) (dataSource sql : String) : Route :=
  { r with units := r.units ++ [⟨dataSource, sql⟩] }

/-- The number of units. -/
def size (r : Route) : Nat := r.units.length

/-- There is no unit. -/
def isEmpty (r : Route) : Bool := r.units.isEmpty

/-- Adds a name behind the others unless it is among them. -/
def addName (names : List String) (name : String) : List String :=
  if name ∈ names then names else names ++ [name]

/-- The distinct data sources, in the order in which they first appear. -/
def dataSourceNames (r : Route) : List String :=
  r.units.foldl (fun names u => addName names u.dataSource) []

/-- Adds a statement behind those of its data source, or a new data source behind the others. -/
def addUnit (groups : List (String × List String)) (u : RouteUnit) : List (String × List String) :=
  match groups with
  | [] => [(u.dataSource, [u.sql])]
  | (name, sqls) :: rest =>
    if name = u.dataSource then (name, sqls ++ [u.sql]) :: rest
    else (name, sqls) :: addUnit rest u

/-- The statements of each data source. -/
def bySource (units : List RouteUnit) : List (String × List String) := units.foldl addUnit []

/-- Numbers the statements of one data source from `start` on. -/
def numberUnits (dataSource : String) (keys : Bool) (start : Nat) : List String → List PhysicalUnit
  | [] => []
  | sql :: rest => ⟨start, dataSource, sql, keys⟩ :: numberUnits dataSource keys (start + 1) rest

/-- Numbers the statements of all data sources from `start` on. -/
def numberGroups (keys : Bool) (start : Nat) : List (String × List String) → List UnitGroup
  | [] => []
  | (name, sqls) :: rest =>
    ⟨name, numberUnits name keys start sqls⟩ :: numberGroups keys (start + sqls.length) rest

/-- The units grouped by data source and numbered in dispatch order, all of them asking for
generated keys or none. -/
def groups (r : Route) (keys : Bool) : List UnitGroup := numberGroups keys 0 (bySource r.units)

/-- The units in dispatch order. -/
def dispatchUnits (r : Route) (keys : Bool) : List PhysicalUnit :=
  (r.groups keys).flatMap (·.units)

/-- The written form of a route. -/
def toDocument (r : Route) : Document :=
  .record [("statement", r.statement.toDocument),
    ("units", .list (r.units.map RouteUnit.toDocument))]

/-- A route that is being read. -/
structure Draft where
  statement : Option Statement := none
  units : Option (List RouteUnit) := none

/-- The fields of a route. -/
def fields (r : Reading) : List (Field Draft) :=
  [.of "statement" (·.statement) (fun s v => { s with statement := some v })
    (Statement.ofDocument r),
   .of "units" (·.units) (fun s v => { s with units := some v })
    (Document.readList RouteUnit.ofDocument)]

/-- Reads a route. -/
def ofDocument (r : Reading) (d : Document) : Except Fault Route := do
  let s ← Fields.read (fields r) {} d
  return ⟨← Fields.need s.statement, ← Fields.need s.units⟩

instance : Written Route := ⟨toDocument, ofDocument⟩

end Route

end ScatterGather
