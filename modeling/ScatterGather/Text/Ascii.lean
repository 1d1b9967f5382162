/-!
# ASCII letters and decimal digits

Folding of ASCII case, comparison that ignores it, and the reading of whole numbers written in
decimal. Only the letters `A` to `Z` have a case here: every other character, `É` and the dotted
`İ` included, is left alone and compared as it stands.
-/

namespace ScatterGather.Text

/-- Lower-cases the letters `A` to `Z` and leaves every other character alone. -/
def asciiLower (s : String) : String := s.map Char.toLower

/-- Two texts are the same when ASCII case is ignored. -/
def equalsIgnoringCase (a b : String) : Bool := asciiLower a == asciiLower b

/-- The value of a decimal digit. -/
def digitValue (c : Char) : Nat := c.toNat - '0'.toNat

/-- The number written by decimal digits, most significant first, on top of `acc`. -/
def digitsValue (acc : Nat) (ds : List Char) : Nat :=
  ds.foldl (fun n c => 10 * n + digitValue c) acc

/-- Reads a whole number written in decimal digits, with an optional `+` in front, that is below
`bound`. Spaces, signs other than `+`, and an empty run of digits are refused. -/
def readUnsigned (bound : Nat) (s : String) : Option Nat :=
  let ds := match s.toList with
    | '+' :: rest => rest
    | cs => cs
  if ds.isEmpty || !ds.all Char.isDigit then none
  else
    let n := digitsValue 0 ds
    if n < bound then some n else none

/-- Writes a natural number with at least `width` digits, padding with zeros on the left. -/
def padded (width n : Nat) : String :=
  let s := toString n
  String.ofList (List.replicate (width - s.length) '0') ++ s

/-- The number is one of 64 bits with a sign. -/
def fitsSigned64 (n : Int) : Bool := -0x8000000000000000 ≤ n && n < 0x8000000000000000

/-- Joins texts with a separator between neighbours. -/
def join (sep : String) (parts : List String) : String := sep.intercalate parts

end ScatterGather.Text
