import ScatterGather.Document.Record
import ScatterGather.Text.Debug

/-!
# Column metadata

The columns of a row-producing statement: names, the tables they come from, and their types.
-/

namespace ScatterGather

/-- The type of a column. -/
inductive ColumnType where
  | integer
  | decimal
  | text
  | boolean
  | timestamp
  | binary
  | null
deriving DecidableEq, Inhabited, Repr

instance : Named ColumnType where
  all := [.integer, .decimal, .text, .boolean, .timestamp, .binary, .null]
  name
    | .integer => "integer"
    | .decimal => "decimal"
    | .text => "text"
    | .boolean => "boolean"
    | .timestamp => "timestamp"
    | .binary => "binary"
    | .null => "null"

/-- The debug text of a column type. -/
def ColumnType.debug : ColumnType → String
  | .integer => "Integer"
  | .decimal => "Decimal"
  | .text => "Text"
  | .boolean => "Boolean"
  | .timestamp => "Timestamp"
  | .binary => "Binary"
  | .null => "Null"

/-- One column. -/
structure ColumnMetadata where
  name : String
  table : Option String
  columnType : ColumnType
deriving DecidableEq, Inhabited, Repr

namespace ColumnMetadata

/-- The written form of a column. -/
def toDocument (c : ColumnMetadata) : Document :=
  .record ([("name", .text c.name)] ++ Document.optionalField "table" .text c.table
    ++ [("column_type", Named.toDocument c.columnType)])

/-- A column that is being read. -/
structure Draft where
  name : Option String := none
  table : Option (Option String) := none
  columnType : Option ColumnType := none

/-- The fields of a column. -/
def fields (r : Reading) : List (Field Draft) :=
  [.of "name" (·.name) (fun s v => { s with name := some v }) Document.readText,
   .of "table" (·.table) (fun s v => { s with table := some v })
    (Document.readOption Document.readText),
   .of "column_type" (·.columnType) (fun s v => { s with columnType := some v })
    (Named.ofDocument r)]

/-- Reads a column. -/
def ofDocument (r : Reading) (d : Document) : Except Fault ColumnMetadata := do
  let s ← Fields.read (fields r) {} d
  return ⟨← Fields.need s.name, s.table.getD none, ← Fields.need s.columnType⟩

instance : Written ColumnMetadata := ⟨toDocument, ofDocument⟩

/-- The debug text of a column. -/
def debug (c : ColumnMetadata) : String :=
  Text.debugRecord "ColumnMetadata"
    [("name", Text.quoted c.name), ("table", Text.debugOption Text.quoted c.table),
     ("column_type", c.columnType.debug)]

end ColumnMetadata

/-- The columns of a result, in order. -/
structure QueryMetadata where
  columns : List ColumnMetadata
deriving DecidableEq, Inhabited, Repr

namespace QueryMetadata

/-- The number of columns. -/
def columnCount (m : QueryMetadata) : Nat := m.columns.length

/-- The names of the columns. -/
def columnNames (m : QueryMetadata) : List String := m.columns.map (·.name)

/-- The place of the first column of a name, ASCII case ignored. -/
def columnIndex? (m : QueryMetadata) (name : String) : Option Nat :=
  m.columns.findIdx? fun c => Text.equalsIgnoringCase c.name name

/-- The written form of metadata. -/
def toDocument (m : QueryMetadata) : Document :=
  .record [("columns", .list (m.columns.map ColumnMetadata.toDocument))]

/-- The fields of metadata that is being read. -/
def fields (r : Reading) : List (Field (Option (List ColumnMetadata))) :=
  [.of "columns" id (fun _ v => some v) (Document.readList (ColumnMetadata.ofDocument r))]

/-- Reads metadata. -/
def ofDocument (r : Reading) (d : Document) : Except Fault QueryMetadata := do
  let columns ← Fields.read (fields r) none d
  return ⟨← Fields.need columns⟩

instance : Written QueryMetadata := ⟨toDocument, ofDocument⟩

/-- The debug text of metadata. -/
def debug (m : QueryMetadata) : String :=
  Text.debugRecord "QueryMetadata"
    [("columns", Text.debugList (m.columns.map ColumnMetadata.debug))]

end QueryMetadata

end ScatterGather
