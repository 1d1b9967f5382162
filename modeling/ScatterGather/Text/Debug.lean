import ScatterGather.Text.Ascii
import ScatterGather.Text.Hex
import ScatterGather.Text.Printable

/-!
# Debug texts

The shape that debug texts of records share: a name before its fields in braces or its payload in
parentheses, lists in brackets, and optional values as `Some(..)` or `None`.

A text stands between double quotes there, and in the messages about cells. A quote and a backslash
are escaped by a backslash, the four common controls by a letter, and every other character that is
not plain by its code point in braces.
-/

namespace ScatterGather.Text

/-- The characters that stand for `c` between double quotes. -/
def quotedChar (c : Char) : List Char :=
  if c = '\x00' then ['\\', '0']
  else if c = '\t' then ['\\', 't']
  else if c = '\r' then ['\\', 'r']
  else if c = '\n' then ['\\', 'n']
  else if c = '\\' then ['\\', '\\']
  else if c = '"' then ['\\', '"']
  else if isPlain c then [c]
  else ['\\', 'u', '\x7b'] ++ Nat.toDigits 16 c.toNat ++ ['\x7d']

/-- A text between double quotes, escaped. -/
def quoted (s : String) : String :=
  String.ofList ('"' :: (s.toList.flatMap quotedChar ++ ['"']))

/-- A record: its name and its fields, each with the text of its value. -/
def debugRecord (name : String) (fields : List (String × String)) : String :=
  name ++ " \x7b " ++ join ", " (fields.map fun f => f.1 ++ ": " ++ f.2) ++ " \x7d"

/-- A variant with one payload. -/
def debugVariant (name payload : String) : String := name ++ "(" ++ payload ++ ")"

/-- A list of values. -/
def debugList (items : List String) : String := "[" ++ join ", " items ++ "]"

/-- A value that may be absent. -/
def debugOption (text : α → String) : Option α → String
  | some a => debugVariant "Some" (text a)
  | none => "None"

/-- A truth value. -/
def boolText (b : Bool) : String := if b then "true" else "false"

end ScatterGather.Text
