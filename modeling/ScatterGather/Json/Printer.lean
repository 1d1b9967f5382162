import ScatterGather.Binary64.Shortest
import ScatterGather.Cell.Basic
import ScatterGather.Text.Hex

/-!
# Compact JSON text

Documents and cells as JSON without blanks. Entries keep their order; floating-point numbers are
written in their shortest form with a point or an exponent, and one that is not finite as `null`.
-/

namespace ScatterGather.Json

/-- The characters that stand for `c` inside a JSON string. -/
def stringChar (c : Char) : List Char :=
  if c = '"' then ['\\', '"']
  else if c = '\\' then ['\\', '\\']
  else if c = '\x08' then ['\\', 'b']
  else if c = '\x0c' then ['\\', 'f']
  else if c = '\n' then ['\\', 'n']
  else if c = '\r' then ['\\', 'r']
  else if c = '\t' then ['\\', 't']
  else if c.toNat < 0x20 then ['\\', 'u', '0', '0'] ++ Text.hexPair (UInt8.ofNat c.toNat)
  else [c]

/-- A text as a JSON string. -/
def string (s : String) : String :=
  String.ofList ('"' :: (s.toList.flatMap stringChar ++ ['"']))

/-- The text that a key is written as. -/
def keyText : Document → String
  | .text s => s
  | _ => ""

mutual

/-- A document as JSON. -/
def print : Document → String
  | .bool b => if b then "true" else "false"
  | .integer n => toString n
  | .float x => if x.isFinite then x.compact else "null"
  | .text s => string s
  | .bytes bs => "[" ++ Text.join "," (bs.map fun b => toString b.toNat) ++ "]"
  | .list items => "[" ++ Text.join "," (printAll items) ++ "]"
  | .table entries => "\x7b" ++ Text.join "," (printEntries entries) ++ "\x7d"
  | .nil | .foreign | .unreadable | .broken => "null"

/-- The items of a list, each as JSON. -/
def printAll : List Document → List String
  | [] => []
  | d :: ds => print d :: printAll ds

/-- The entries of a table, each as JSON. -/
def printEntries : List (Document × Document) → List String
  | [] => []
  | (k, v) :: es => (string (keyText k) ++ ":" ++ print v) :: printEntries es

end

/-- A cell as JSON. -/
def printCell (c : Cell) : String := print c.toDocument

end ScatterGather.Json
