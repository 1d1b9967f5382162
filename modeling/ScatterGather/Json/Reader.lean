import ScatterGather.Cell.Basic
import ScatterGather.Json.Number
import ScatterGather.Text.Hex

/-!
# Reading JSON text

`read` turns a text into the document of its first value and the characters behind it. The lists
and tables that are still open are kept in a list of frames, so that deep nesting needs no deep
recursion. Where the text goes wrong the open frames are closed as they are, each with `broken`
behind what it holds, and no characters are left (`Outcome.rest = none`). A string with half of a
surrogate pair and a number out of range are `unreadable`: they matter only to a reader that wants
their value.
-/

namespace ScatterGather.Json

/-- Blanks between tokens. -/
def isBlank (c : Char) : Bool := c = ' ' || c = '\n' || c = '\t' || c = '\r'

/-- Drops blanks. -/
def skipBlanks (cs : List Char) : List Char := cs.dropWhile isBlank

/-! ### Strings -/

/-- The number of four hexadecimal digits and what follows them. -/
def hexQuad? : List Char → Option (Nat × List Char)
  | a :: b :: c :: d :: rest => do
    let a ← Text.hexValue? a
    let b ← Text.hexValue? b
    let c ← Text.hexValue? c
    let d ← Text.hexValue? d
    return (((a * 16 + b) * 16 + c) * 16 + d, rest)
  | _ => none

/-- The character of an escape other than `u`. -/
def simpleEscape? (c : Char) : Option Char :=
  if c = '"' ∨ c = '\\' ∨ c = '/' then some c
  else if c = 'b' then some '\x08'
  else if c = 'f' then some '\x0c'
  else if c = 'n' then some '\n'
  else if c = 'r' then some '\r'
  else if c = 't' then some '\t'
  else none

/-- What the characters of a string mean so far: reversed text, or no text at all. -/
abbrev Scanned := Option (List Char)

/-- The code unit begins a surrogate pair. -/
def isHighSurrogate (n : Nat) : Bool := 0xD800 ≤ n && n < 0xDC00

/-- The code unit ends a surrogate pair. -/
def isLowSurrogate (n : Nat) : Bool := 0xDC00 ≤ n && n < 0xE000

/-- Reads a string behind its opening quote: its document, and what follows the closing quote.
`none` when the string is not closed or holds a bare control or an unknown escape. -/
def stringTail : Nat → Scanned → List Char → Option (Document × List Char)
  | 0, _, _ => none
  | fuel + 1, acc, cs =>
    match cs with
    | [] => none
    | '"' :: rest =>
      some (match acc with
        | some text => .text (String.ofList text.reverse)
        | none => .unreadable, rest)
    | '\\' :: 'u' :: rest =>
      match hexQuad? rest with
      | none => none
      | some (n, rest) =>
        if isHighSurrogate n then
          match rest with
          | '\\' :: 'u' :: more =>
            match hexQuad? more with
            | some (m, after) =>
              if isLowSurrogate m then
                let c := Char.ofNat (0x10000 + (n - 0xD800) * 0x400 + (m - 0xDC00))
                stringTail fuel (acc.map (c :: ·)) after
              else stringTail fuel none rest
            | none => none
          | _ => stringTail fuel none rest
        else if isLowSurrogate n then stringTail fuel none rest
        else stringTail fuel (acc.map (Char.ofNat n :: ·)) rest
    | '\\' :: c :: rest =>
      match simpleEscape? c with
      | some d => stringTail fuel (acc.map (d :: ·)) rest
      | none => none
    | c :: rest =>
      if c = '\\' ∨ c.toNat < 0x20 then none else stringTail fuel (acc.map (c :: ·)) rest

/-! ### Numbers and words -/

/-- Splits off a run of digits. -/
def digits (cs : List Char) : List Char × List Char :=
  (cs.takeWhile Char.isDigit, cs.dropWhile Char.isDigit)

/-- Reads the digits of an exponent behind its letter. -/
def exponentTail? (cs : List Char) : Option (Int × List Char) :=
  let (negative, cs) := match cs with
    | '+' :: rest => (false, rest)
    | '-' :: rest => (true, rest)
    | _ => (false, cs)
  let (ds, rest) := digits cs
  if ds.isEmpty then none
  else
    let n : Int := Text.digitsValue 0 ds
    some (if negative then -n else n, rest)

/-- Reads a number: no superfluous zero in front, a digit on both sides of a point. -/
def number? (cs : List Char) : Option (Document × List Char) := do
  let (negative, cs) := match cs with
    | '-' :: rest => (true, rest)
    | _ => (false, cs)
  let (whole, rest) := digits cs
  match whole with
  | [] => none
  | '0' :: _ :: _ => none
  | _ =>
    let (fraction, rest) ← match rest with
      | '.' :: more =>
        let (ds, rest) := digits more
        if ds.isEmpty then none else some (some ds, rest)
      | _ => some (none, rest)
    let (exponent, rest) ← match rest with
      | 'e' :: more | 'E' :: more => (exponentTail? more).map fun (e, rest) => (some e, rest)
      | _ => some (none, rest)
    return (Numeral.document ⟨negative, whole, fraction, exponent⟩, rest)

/-- Drops the given characters from the front. -/
def stripWord? (word cs : List Char) : Option (List Char) :=
  if cs.take word.length = word then some (cs.drop word.length) else none

/-- Reads a value that is neither a list nor a table. -/
def scalar? (cs : List Char) : Option (Document × List Char) :=
  match cs with
  | '"' :: rest => stringTail (rest.length + 1) (some []) rest
  | 'n' :: _ => (stripWord? ['n', 'u', 'l', 'l'] cs).map fun rest => (.nil, rest)
  | 't' :: _ => (stripWord? ['t', 'r', 'u', 'e'] cs).map fun rest => (.bool true, rest)
  | 'f' :: _ => (stripWord? ['f', 'a', 'l', 's', 'e'] cs).map fun rest => (.bool false, rest)
  | c :: _ => if c = '-' ∨ c.isDigit then number? cs else none
  | [] => none

/-! ### Lists and tables -/

/-- A list or a table part way through, what it holds in reverse. -/
inductive Frame where
  | list (done : List Document)
  | table (done : List (Document × Document)) (key : Document)

/-- What reading gave: the document, and the characters behind it unless the text went wrong. -/
structure Outcome where
  document : Document
  rest : Option (List Char)

/-- Closes the open frames around `d` where the text goes wrong. -/
def breakOff : List Frame → Document → Outcome
  | [], d => ⟨d, none⟩
  | .list done :: frames, d => breakOff frames (.list (.broken :: d :: done).reverse)
  | .table done key :: frames, d =>
    breakOff frames (.table ((.broken, .broken) :: (key, d) :: done).reverse)

/-- What is to be read next. -/
inductive Place where
  | value
  | key (done : List (Document × Document))
  | after (d : Document)

/-- Reads on from a place inside the open frames. -/
def readFrom : Nat → Place → List Frame → List Char → Outcome
  | 0, _, frames, _ => breakOff frames .broken
  | fuel + 1, .value, frames, cs =>
    match skipBlanks cs with
    | '[' :: rest =>
      match skipBlanks rest with
      | ']' :: rest => readFrom fuel (.after (.list [])) frames rest
      | rest => readFrom fuel .value (.list [] :: frames) rest
    | '\x7b' :: rest =>
      match skipBlanks rest with
      | '\x7d' :: rest => readFrom fuel (.after (.table [])) frames rest
      | rest => readFrom fuel (.key []) frames rest
    | cs =>
      match scalar? cs with
      | some (d, rest) => readFrom fuel (.after d) frames rest
      | none => breakOff frames .broken
  | fuel + 1, .key done, frames, cs =>
    match skipBlanks cs with
    | '"' :: rest =>
      match stringTail (rest.length + 1) (some []) rest with
      | some (key, rest) =>
        match skipBlanks rest with
        | ':' :: rest => readFrom fuel .value (.table done key :: frames) rest
        | _ => breakOff (.table done key :: frames) .broken
      | none => breakOff (.table done .broken :: frames) .broken
    | _ => breakOff (.table done .broken :: frames) .broken
  | fuel + 1, .after d, frames, cs =>
    match frames with
    | [] => ⟨d, some cs⟩
    | .list done :: outer =>
      match skipBlanks cs with
      | ',' :: rest => readFrom fuel .value (.list (d :: done) :: outer) rest
      | ']' :: rest => readFrom fuel (.after (.list (d :: done).reverse)) outer rest
      | _ => breakOff frames d
    | .table done key :: outer =>
      match skipBlanks cs with
      | ',' :: rest => readFrom fuel (.key ((key, d) :: done)) outer rest
      | '\x7d' :: rest => readFrom fuel (.after (.table ((key, d) :: done).reverse)) outer rest
      | _ => breakOff frames d

/-- Reads the first value of a text. Every step takes a character, but for the last one of each
value. -/
def read (text : String) : Outcome :=
  let cs := text.toList
  readFrom (2 * cs.length + 2) .value [] cs

/-- Only blanks are left behind the value. -/
def Outcome.complete (o : Outcome) : Bool :=
  match o.rest with
  | some cs => (skipBlanks cs).isEmpty
  | none => false

/-- Reads a record from a text that holds nothing else. A fault of the record comes before one of
the text behind it. -/
def readRecord (read? : Document → Except Fault α) (text : String) : Except Fault α := do
  let o := read text
  let a ← read? o.document
  if o.complete then return a else throw .malformed

/-- Reads a text that is one JSON value as a cell. -/
def readCell (text : String) : Except Fault Cell := readRecord Cell.ofDocument text

/-- How records are read from JSON text: where a document is kept, it nests at most 127 deep. -/
def reading : Reading := { levels := 127 }

end ScatterGather.Json
