import ScatterGather.Document.Record
import ScatterGather.Toml.Text

/-!
# Numbers and times in TOML

Whole numbers have 64 bits with a sign. No record holds a number with a fraction or an exponent;
such a number is only checked. A date or time is a table of one entry with its text.
-/

namespace ScatterGather.Toml

/-! ### Numbers -/

/-- Digits behind a first one, with single underscores between digits. -/
def moreDigits (isDigit : Char → Bool) : List Char → List Char × List Char
  | [] => ([], [])
  | '_' :: c :: rest =>
    if isDigit c then
      let (ds, rest) := moreDigits isDigit rest
      (c :: ds, rest)
    else ([], '_' :: c :: rest)
  | c :: rest =>
    if isDigit c then
      let (ds, rest) := moreDigits isDigit rest
      (c :: ds, rest)
    else ([], c :: rest)

/-- Reads digits, with single underscores between them. -/
def digits? (isDigit : Char → Bool) : Reader (List Char)
  | c :: rest =>
    if isDigit c then
      let (ds, rest) := moreDigits isDigit rest
      some (c :: ds, rest)
    else none
  | [] => none

/-- Reads a sign, if there is one; a minus counts. -/
def sign : List Char → Bool × List Char
  | '-' :: rest => (true, rest)
  | '+' :: rest => (false, rest)
  | cs => (false, cs)

/-- Reads decimal digits without a superfluous zero in front, with their sign. -/
def decimal? : Reader (Bool × List Char) := fun cs =>
  let (negative, cs) := sign cs
  match cs with
  | '0' :: rest => some ((negative, ['0']), rest)
  | cs => do
    let (ds, rest) ← digits? Char.isDigit cs
    return ((negative, ds), rest)

/-- A whole number of 64 bits. -/
def ofInteger (n : Int) : Option Document :=
  if Text.fitsSigned64 n then some (.integer n) else none

/-- The value of digits to a base. -/
def valueOf (base : Nat) (ds : List Char) : Nat :=
  ds.foldl (fun n c => n * base + (Text.hexValue? c).getD 0) 0

/-- Reads a whole number to a base other than ten, behind its mark. -/
def based? (base : Nat) : Reader Document := fun cs => do
  let isDigit (c : Char) : Bool := (Text.hexValue? c).any (· < base)
  let (ds, rest) ← digits? isDigit cs
  return (← ofInteger (valueOf base ds), rest)

/-- Reads a whole number. -/
def integer? : Reader Document
  | '0' :: 'x' :: rest => based? 16 rest
  | '0' :: 'o' :: rest => based? 8 rest
  | '0' :: 'b' :: rest => based? 2 rest
  | cs => do
    let ((negative, ds), rest) ← decimal? cs
    let n : Int := valueOf 10 ds
    return (← ofInteger (if negative then -n else n), rest)

/-- Reads an exponent. -/
def exponent? : Reader Int
  | c :: rest => do
    if c ≠ 'e' ∧ c ≠ 'E' then none
    let (negative, rest) := sign rest
    let (ds, rest) ← digits? Char.isDigit rest
    let n : Int := valueOf 10 ds
    return (if negative then -n else n, rest)
  | [] => none

/-- The digits of a fraction, and the exponent behind it. -/
def fraction? : Reader (List Char × Int)
  | '.' :: rest => do
    let (ds, rest) ← digits? Char.isDigit rest
    match exponent? rest with
    | some (e, rest) => return ((ds, e), rest)
    | none => return ((ds, 0), rest)
  | cs => do
    let (e, rest) ← exponent? cs
    return (([], e), rest)

/-- The least number that is nearer to the first power of two beyond all finite numbers than to the
greatest of them. -/
def overflowBound : Nat := (1 <<< 1024) - (1 <<< 970)

/-- The number `ds` times ten to the power `e` is too great to be finite. -/
def overflows (ds : List Char) (e : Int) : Bool :=
  let ds := ds.dropWhile (· = '0')
  let magnitude : Int := ds.length + e
  if ds.isEmpty || magnitude < 308 then false
  else if 310 < magnitude then true
  else if 0 ≤ e then overflowBound ≤ valueOf 10 ds * Nat.pow 10 e.toNat
  else overflowBound * Nat.pow 10 (-e).toNat ≤ valueOf 10 ds

/-- Reads a number with a fraction or an exponent; one that is too great is refused. -/
def fractional? : Reader Document := fun cs => do
  let ((negative, whole), rest) ← decimal? cs
  let ((ds, e), rest) ← fraction? rest
  if !negative && overflows (whole ++ ds) (e - ds.length) then none else some (.foreign, rest)

/-- Drops a word that must be there. -/
def word? (w : String) (cs : List Char) : Option (List Char) :=
  if w.toList.isPrefixOf cs then some (cs.drop w.length) else none

/-- Reads what is no finite number. -/
def nonFinite? : Reader Document := fun cs => do
  let (_, cs) := sign cs
  let rest ← (word? "inf" cs) <|> word? "nan" cs
  return (.foreign, rest)

/-! ### Dates and times -/

/-- The number of exactly so many digits. -/
def fixed? (width : Nat) : Reader Nat := fun cs =>
  let ds := cs.take width
  if ds.length = width ∧ ds.all Char.isDigit then some (valueOf 10 ds, cs.drop width) else none

/-- The number of two digits, when it is in a range. -/
def pair? (least greatest : Nat) : Reader Nat := fun cs => do
  let (n, rest) ← fixed? 2 cs
  if least ≤ n ∧ n ≤ greatest then some (n, rest) else none

/-- The days of a month. -/
def daysOfMonth (year month : Nat) : Nat :=
  let leap := year % 4 = 0 ∧ (year % 100 ≠ 0 ∨ year % 400 = 0)
  if month = 2 then if leap then 29 else 28
  else if [4, 6, 9, 11].contains month then 30
  else 31

/-- Reads a date; its text. -/
def date? : Reader String := fun cs => do
  let (year, rest) ← fixed? 4 cs
  let (month, rest) ← pair? 1 12 (← word? "-" rest)
  let (day, rest) ← pair? 1 31 (← word? "-" rest)
  if daysOfMonth year month < day then none
  return (Text.padded 4 year ++ "-" ++ Text.padded 2 month ++ "-" ++ Text.padded 2 day, rest)

/-- Reads a fraction of a second; its text, to the nanosecond and without trailing zeros. -/
def secondFraction : List Char → String × List Char
  | '.' :: rest =>
    match rest.takeWhile Char.isDigit with
    | [] => ("", '.' :: rest)
    | ds =>
      let ds := ((ds.take 9).reverse.dropWhile (· = '0')).reverse
      (if ds.isEmpty then "" else "." ++ String.ofList ds, rest.dropWhile Char.isDigit)
  | cs => ("", cs)

/-- Reads a time of day; its text. -/
def time? : Reader String := fun cs => do
  let (hour, rest) ← pair? 0 23 cs
  let (minute, rest) ← pair? 0 59 (← word? ":" rest)
  let (second, rest) ← pair? 0 60 (← word? ":" rest)
  let (fraction, rest) := secondFraction rest
  return (":".intercalate ([hour, minute, second].map (Text.padded 2)) ++ fraction, rest)

/-- Reads an offset from universal time, if there is one; its text. -/
def offset : List Char → String × List Char
  | [] => ("", [])
  | c :: rest =>
    if c = 'Z' ∨ c = 'z' then ("Z", rest)
    else if c = '+' ∨ c = '-' then
      let read : Option (String × List Char) := do
        let (hour, rest) ← pair? 0 23 rest
        let (minute, rest) ← pair? 0 59 (← word? ":" rest)
        let sign := if c = '-' ∧ 0 < hour * 60 + minute then "-" else "+"
        return (sign ++ Text.padded 2 hour ++ ":" ++ Text.padded 2 minute, rest)
      read.getD ("", c :: rest)
    else ("", c :: rest)

/-- Reads a time of day behind a date; its text with what stands between them. -/
def timeBehind? : Reader String
  | c :: rest => do
    if c ≠ 'T' ∧ c ≠ 't' ∧ c ≠ ' ' then none
    let (time, rest) ← time? rest
    let (o, rest) := offset rest
    return ("T" ++ time ++ o, rest)
  | [] => none

/-- The entry that a date or time is the value of. -/
def timeKey : String := "$__toml_private_datetime"

/-- Reads a date, a time, or both. -/
def dateTime? : Reader Document := fun cs =>
  let entry (text : String) : Document := .record [(timeKey, .text text)]
  match date? cs with
  | some (date, rest) =>
    match timeBehind? rest with
    | some (time, rest) => some (entry (date ++ time), rest)
    | none => some (entry date, rest)
  | none => do
    let (time, rest) ← time? cs
    return (entry time, rest)

/-- Reads a value that is neither a list nor a table. -/
def scalar? : Reader Document := fun cs =>
  match cs with
  | '"' :: _ | '\'' :: _ => do
    let (s, rest) ← string? cs
    return (.text s, rest)
  | 't' :: _ => do return (.bool true, ← word? "true" cs)
  | 'f' :: _ => do return (.bool false, ← word? "false" cs)
  | _ => dateTime? cs <|> fractional? cs <|> nonFinite? cs <|> integer? cs

end ScatterGather.Toml
