import ScatterGather.Binary64.Shortest
import ScatterGather.Cell.Basic
import ScatterGather.Json.Printer
import ScatterGather.Text.Debug

/-!
# Reading a cell as a value of a wanted type

`Target.convert` gives the cell a caller sees who asks for a number of a certain width, a truth
value, a text, an optional one of these or a list of numbers; a cell of another kind, or a number
out of range, is a `Mismatch`, which says what was found and what was expected. The debug text of a
cell has its kind before its value.
-/

namespace ScatterGather

namespace Cell

mutual

/-- The debug text of a cell. -/
def debug : Cell → String
  | .null => "Null"
  | .bool b => Text.debugVariant "Bool" (Text.boolText b)
  | .integer n => Text.debugVariant "Number" (toString n.val)
  | .float x => Text.debugVariant "Number" x.val.compact
  | .text s => Text.debugVariant "String" (Text.quoted s)
  | .list items => "Array [" ++ Text.join ", " (debugAll items) ++ "]"
  | .record fields => "Object \x7b" ++ Text.join ", " (debugFields fields) ++ "\x7d"

/-- The debug texts of a list of cells. -/
def debugAll : List Cell → List String
  | [] => []
  | c :: cs => c.debug :: debugAll cs

/-- The debug texts of named cells. -/
def debugFields : List (String × Cell) → List String
  | [] => []
  | (n, c) :: fs => (Text.quoted n ++ ": " ++ c.debug) :: debugFields fs

end

end Cell

/-- The types a cell can be read as. -/
inductive Target where
  | i64
  | u64
  | i32
  | u8
  | f64
  | bool
  | string
  | optionalI64
  | optionalString
  | listOfI64
  | any
deriving DecidableEq, Inhabited, Repr

/-- Why a cell is not what was wanted. -/
inductive Mismatch where
  /-- A cell of another kind. -/
  | kind (found : Cell) (wanted : String)
  /-- A whole number out of range. -/
  | range (found : Int) (wanted : String)

namespace Mismatch

/-- What is said of a cell that was found where another was expected. -/
def describe : Cell → String
  | .null => "null"
  | .bool b => "boolean `" ++ Text.boolText b ++ "`"
  | .integer n => "integer `" ++ toString n.val ++ "`"
  | .float x => "floating point `" ++ x.val.positional ++ "`"
  | .text s => "string " ++ Text.quoted s
  | .list _ => "sequence"
  | .record _ => "map"

/-- The text of a mismatch. -/
def message : Mismatch → String
  | .kind found wanted => "invalid type: " ++ describe found ++ ", expected " ++ wanted
  | .range found wanted =>
    "invalid value: integer `" ++ toString found ++ "`, expected " ++ wanted

end Mismatch

namespace Target

/-- The name of a type in messages. -/
def name : Target → String
  | .i64 => "i64"
  | .u64 => "u64"
  | .i32 => "i32"
  | .u8 => "u8"
  | .f64 => "f64"
  | .bool => "bool"
  | .string => "alloc::string::String"
  | .optionalI64 => "core::option::Option<i64>"
  | .optionalString => "core::option::Option<alloc::string::String>"
  | .listOfI64 => "alloc::vec::Vec<i64>"
  | .any => "serde_json::value::Value"

/-- A whole number from `low` up to, but not including, `high`. -/
def wholeNumber (wanted : String) (low high : Int) : Cell → Except Mismatch Cell
  | .integer n =>
    if low ≤ n.val ∧ n.val < high then .ok (.integer n) else .error (.range n.val wanted)
  | c => .error (.kind c wanted)

/-- A signed whole number of 64 bits. -/
def signed64 : Cell → Except Mismatch Cell :=
  wholeNumber "i64" (-0x8000000000000000) 0x8000000000000000

/-- A text. -/
def text : Cell → Except Mismatch Cell
  | .text s => .ok (.text s)
  | c => .error (.kind c "a string")

/-- What `read` reads, or nothing from a null. -/
def optional (read : Cell → Except Mismatch Cell) : Cell → Except Mismatch Cell
  | .null => .ok .null
  | c => read c

/-- Reads a cell as a value of the type. -/
def convert : Target → Cell → Except Mismatch Cell
  | .i64, c => signed64 c
  | .u64, c => wholeNumber "u64" 0 UInt64.size c
  | .i32, c => wholeNumber "i32" (-0x80000000) 0x80000000 c
  | .u8, c => wholeNumber "u8" 0 UInt8.size c
  | .f64, .integer n => .ok (Cell.ofFloat (Binary64.ofRatio (n.val < 0) n.val.natAbs 1))
  | .f64, .float x => .ok (.float x)
  | .f64, c => .error (.kind c "f64")
  | .bool, .bool b => .ok (.bool b)
  | .bool, c => .error (.kind c "a boolean")
  | .string, c => text c
  | .optionalI64, c => optional signed64 c
  | .optionalString, c => optional text c
  | .listOfI64, .list items => .list <$> items.mapM signed64
  | .listOfI64, c => .error (.kind c "a sequence")
  | .any, c => .ok c

end Target

end ScatterGather
