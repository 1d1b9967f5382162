import ScatterGather.Document.Record

/-!
# Statements

What is known about a logical statement when it reaches the engine: its category, the logical
tables it touches, and whether it asks for generated keys.
-/

namespace ScatterGather

/-- The category of a statement. -/
inductive StatementKind where
  | dql
  | dml
  | ddl
  | tcl
  | dal
  | dcl
deriving DecidableEq, Inhabited, Repr

instance : Named StatementKind where
  all := [.dql, .dml, .ddl, .tcl, .dal, .dcl]
  name
    | .dql => "DQL"
    | .dml => "DML"
    | .ddl => "DDL"
    | .tcl => "TCL"
    | .dal => "DAL"
    | .dcl => "DCL"

/-- A logical statement, as far as its execution depends on it. -/
structure Statement where
  kind : StatementKind
  /-- Logical tables, in the order the statement names them. -/
  tables : List String
  /-- An insert asks the data sources for generated keys. -/
  isInsert : Bool
deriving DecidableEq, Inhabited, Repr

namespace Statement

/-- A statement that touches no table. -/
def ofKind (kind : StatementKind) : Statement := ⟨kind, [], false⟩

/-- An insert into one table. -/
def insertInto (table : String) : Statement := ⟨.dml, [table], true⟩

/-- The same statement touching one more table. -/
def withTable (s : Statement) (table : String) : Statement :=
  { s with tables := s.tables ++ [table] }

/-- The statement as it is built from its parts: an insert from its first table on, any other from
its kind on. Whether it is an insert is lost for one without tables and for kinds other than DML. -/
def rebuilt (s : Statement) : Statement :=
  match s.kind, s.isInsert, s.tables with
  | .dml, true, first :: others => others.foldl withTable (.insertInto first)
  | kind, _, tables => tables.foldl withTable (.ofKind kind)

/-- Generated keys are asked for. -/
def returnsGeneratedKeys (s : Statement) : Bool := s.isInsert

/-- The first logical table, where one is enough. -/
def singleTable? (s : Statement) : Option String := s.tables.head?

/-- The written form of a statement. -/
def toDocument (s : Statement) : Document :=
  .record [("kind", Named.toDocument s.kind), ("tables", .list (s.tables.map .text)),
    ("insert", .bool s.isInsert)]

/-- A statement that is being read. -/
structure Draft where
  kind : Option StatementKind := none
  tables : Option (List String) := none
  insert : Option Bool := none

/-- The fields of a statement. -/
def fields (r : Reading) : List (Field Draft) :=
  [.of "kind" (·.kind) (fun s v => { s with kind := some v }) (Named.ofDocument r),
   .of "tables" (·.tables) (fun s v => { s with tables := some v })
    (Document.readList Document.readText),
   .of "insert" (·.insert) (fun s v => { s with insert := some v }) Document.readBool]

/-- Reads a statement; without tables it touches none, and it is no insert unless it says so. -/
def ofDocument (r : Reading) (d : Document) : Except Fault Statement := do
  let s ← Fields.read (fields r) {} d
  return ⟨← Fields.need s.kind, s.tables.getD [], s.insert.getD false⟩

instance : Written Statement := ⟨toDocument, ofDocument⟩

end Statement

end ScatterGather
