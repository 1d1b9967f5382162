import ScatterGather.Document.Record

/-!
# Cells

A cell is one value of a row: nothing, a truth value, a whole number of 64 bits with or without a
sign, a finite floating-point number, a text, a list of cells, or a record of named cells. The
names of a record ascend and are distinct (`Cell.Canonical`); `Cell.ofDocument` builds such records
from tables in any order, the last of equal names winning.
-/

namespace ScatterGather

/-- The whole numbers of 64 bits, signed and unsigned. -/
structure CellInt where
  val : Int
  lower : -0x8000000000000000 ≤ val
  upper : val < 0x10000000000000000
deriving DecidableEq, Repr

/-- The finite floating-point numbers. -/
structure CellFloat where
  val : Binary64
  finite : val.isFinite = true
deriving DecidableEq, Repr

/-- One value of a row. -/
inductive Cell where
  | null
  | bool (b : Bool)
  | integer (n : CellInt)
  | float (x : CellFloat)
  | text (s : String)
  | list (items : List Cell)
  | record (fields : List (String × Cell))
deriving Inhabited

namespace CellInt

/-- A natural number below `2 ^ 64`. -/
def ofUInt64 (n : UInt64) : CellInt :=
  ⟨n.toNat, by omega, by have := n.toNat_lt; omega⟩

/-- A whole number, when it is one of 64 bits. -/
def ofInt? (n : Int) : Option CellInt :=
  if h : -0x8000000000000000 ≤ n ∧ n < 0x10000000000000000 then some ⟨n, h.1, h.2⟩ else none

end CellInt

namespace Cell

/-- The cell of a floating-point number; one that is not finite is nothing. -/
def ofFloat (x : Binary64) : Cell := if h : x.isFinite = true then .float ⟨x, h⟩ else .null

/-- The cell of a whole number: itself when it is one of 64 bits, the nearest floating-point number
otherwise. -/
def ofInt (n : Int) : Cell :=
  match CellInt.ofInt? n with
  | some i => .integer i
  | none => ofFloat (Binary64.ofRatio (n < 0) n.natAbs 1)

/-- Puts a named cell into its place among ascending names, over one of the same name. -/
def insertField (name : String) (value : Cell) : List (String × Cell) → List (String × Cell)
  | [] => [(name, value)]
  | (n, v) :: rest =>
    if name < n then (name, value) :: (n, v) :: rest
    else if name = n then (name, value) :: rest
    else (n, v) :: insertField name value rest

/-- The cell of a name in a record. -/
def field? (name : String) : Cell → Option Cell
  | .record fields => (fields.find? (·.1 == name)).map (·.2)
  | _ => none

/-! ### Cells as documents -/

mutual

/-- The document of a cell. -/
def toDocument : Cell → Document
  | .null => .nil
  | .bool b => .bool b
  | .integer n => .integer n.val
  | .float x => .float x.val
  | .text s => .text s
  | .list items => .list (listToDocument items)
  | .record fields => .table (fieldsToDocument fields)

/-- The documents of a list of cells. -/
def listToDocument : List Cell → List Document
  | [] => []
  | c :: cs => c.toDocument :: listToDocument cs

/-- The entries of named cells. -/
def fieldsToDocument : List (String × Cell) → List (Document × Document)
  | [] => []
  | (n, c) :: fs => (.text n, c.toDocument) :: fieldsToDocument fs

end

mutual

/-- Reads a cell. A number that no cell holds becomes the nearest one that does, and one that is
not finite becomes nothing; names are texts. -/
def ofDocument : Document → Except Fault Cell
  | .nil => .ok .null
  | .bool b => .ok (.bool b)
  | .integer n => .ok (ofInt n)
  | .float x => .ok (ofFloat x)
  | .text s => .ok (.text s)
  | .list items => .list <$> listOfDocument items
  | .table entries => .record <$> fieldsOfDocument [] entries
  | d => .error d.fault

/-- Reads a list of cells. -/
def listOfDocument : List Document → Except Fault (List Cell)
  | [] => .ok []
  | d :: ds => do
    let c ← ofDocument d
    let cs ← listOfDocument ds
    return c :: cs

/-- Reads named cells on top of those read so far. -/
def fieldsOfDocument (done : List (String × Cell)) :
    List (Document × Document) → Except Fault (List (String × Cell))
  | [] => .ok done
  | (key, value) :: rest => do
    let name ← match key with
      | .text s => .ok s
      | d => .error d.fault
    let c ← ofDocument value
    fieldsOfDocument (insertField name c done) rest

end

/-! ### Canonical cells -/

/-- Names ascend strictly. -/
def namesAscend : List (String × Cell) → Bool
  | (a, _) :: (b, d) :: rest => a < b && namesAscend ((b, d) :: rest)
  | _ => true

mutual

/-- In every record of the cell the names ascend strictly. -/
def canonical : Cell → Bool
  | .list items => allCanonical items
  | .record fields => namesAscend fields && fieldsCanonical fields
  | _ => true

/-- `canonical` for every cell of a list. -/
def allCanonical : List Cell → Bool
  | [] => true
  | c :: cs => c.canonical && allCanonical cs

/-- `canonical` for every named cell. -/
def fieldsCanonical : List (String × Cell) → Bool
  | [] => true
  | (_, c) :: fs => c.canonical && fieldsCanonical fs

end

instance : Written Cell := ⟨toDocument, fun _ => ofDocument⟩

end Cell

end ScatterGather
