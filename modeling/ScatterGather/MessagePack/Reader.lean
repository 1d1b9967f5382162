import ScatterGather.Document.Basic

/-!
# Reading MessagePack

`read` turns bytes into the document of their first value and the bytes behind it. A value is a
head, which is a whole scalar or says how much follows, and then what the head announces. Lists and
tables nest at most `nestingLimit` deep. A text that is not UTF-8 is kept as bytes, and an extension
as a document that no record holds.
-/

namespace ScatterGather.MessagePack

/-- How deep lists and tables may nest. -/
def nestingLimit : Nat := 1024

/-- Splits off exactly `n` bytes. -/
def split? (n : Nat) (bytes : List UInt8) : Option (List UInt8 × List UInt8) :=
  let front := bytes.take n
  if front.length = n then some (front, bytes.drop n) else none

/-- The number written by bytes, the most significant first. -/
def ofBigEndian (bytes : List UInt8) : Nat := bytes.foldl (fun n b => 256 * n + b.toNat) 0

/-- Reads a number of `width` bytes. -/
def readNat? (width : Nat) (bytes : List UInt8) : Option (Nat × List UInt8) :=
  (split? width bytes).map fun (front, rest) => (ofBigEndian front, rest)

/-- The signed number whose last `width` bytes are `n`. -/
def signed (width n : Nat) : Int :=
  let bound := Nat.pow 256 width
  if 2 * n < bound then n else (n : Int) - bound

/-- What the first bytes of a value say. -/
inductive Head where
  /-- The whole value. -/
  | scalar (d : Document)
  /-- A text of so many bytes follows. -/
  | text (size : Nat)
  /-- So many plain bytes follow. -/
  | bytes (size : Nat)
  /-- So many items follow. -/
  | list (count : Nat)
  /-- So many keys, each with its value, follow. -/
  | table (count : Nat)
  /-- So many bytes of an extension follow, its kind among them. -/
  | extension (size : Nat)

/-- Reads the number behind a first byte and makes a head of it. -/
def headOf (width : Nat) (make : Nat → Head) (bytes : List UInt8) : Option (Head × List UInt8) :=
  (readNat? width bytes).map fun (n, rest) => (make n, rest)

/-- Reads the head of a value. -/
def readHead? : List UInt8 → Option (Head × List UInt8)
  | [] => none
  | b :: rest =>
    let n := b.toNat
    if n < 0x80 then some (.scalar (.integer n), rest)
    else if n < 0x90 then some (.table (n - 0x80), rest)
    else if n < 0xa0 then some (.list (n - 0x90), rest)
    else if n < 0xc0 then some (.text (n - 0xa0), rest)
    else if 0xe0 ≤ n then some (.scalar (.integer ((n : Int) - 0x100)), rest)
    else match n with
      | 0xc0 => some (.scalar .nil, rest)
      | 0xc2 => some (.scalar (.bool false), rest)
      | 0xc3 => some (.scalar (.bool true), rest)
      | 0xc4 => headOf 1 .bytes rest
      | 0xc5 => headOf 2 .bytes rest
      | 0xc6 => headOf 4 .bytes rest
      | 0xc7 => headOf 1 (fun size => .extension (size + 1)) rest
      | 0xc8 => headOf 2 (fun size => .extension (size + 1)) rest
      | 0xc9 => headOf 4 (fun size => .extension (size + 1)) rest
      | 0xca => headOf 4 (fun bits => .scalar (.float (Binary64.ofBinary32 bits))) rest
      | 0xcb => headOf 8 (fun bits => .scalar (.float ⟨UInt64.ofNat bits⟩)) rest
      | 0xcc => headOf 1 (fun n => .scalar (.integer n)) rest
      | 0xcd => headOf 2 (fun n => .scalar (.integer n)) rest
      | 0xce => headOf 4 (fun n => .scalar (.integer n)) rest
      | 0xcf => headOf 8 (fun n => .scalar (.integer n)) rest
      | 0xd0 => headOf 1 (fun n => .scalar (.integer (signed 1 n))) rest
      | 0xd1 => headOf 2 (fun n => .scalar (.integer (signed 2 n))) rest
      | 0xd2 => headOf 4 (fun n => .scalar (.integer (signed 4 n))) rest
      | 0xd3 => headOf 8 (fun n => .scalar (.integer (signed 8 n))) rest
      | 0xd4 => some (.extension 2, rest)
      | 0xd5 => some (.extension 3, rest)
      | 0xd6 => some (.extension 5, rest)
      | 0xd7 => some (.extension 9, rest)
      | 0xd8 => some (.extension 17, rest)
      | 0xd9 => headOf 1 .text rest
      | 0xda => headOf 2 .text rest
      | 0xdb => headOf 4 .text rest
      | 0xdc => headOf 2 .list rest
      | 0xdd => headOf 4 .list rest
      | 0xde => headOf 2 .table rest
      | 0xdf => headOf 4 .table rest
      | _ => none

/-- Bytes as a text, or as themselves when they are not UTF-8. -/
def textOrBytes (bytes : List UInt8) : Document :=
  match Document.textOfBytes? bytes with
  | some s => .text s
  | none => .bytes bytes

/-- Reads `count` values, one after another. -/
def readMany? (readOne : List UInt8 → Option (α × List UInt8)) :
    Nat → List UInt8 → Option (List α × List UInt8)
  | 0, bytes => some ([], bytes)
  | count + 1, bytes => do
    let (a, rest) ← readOne bytes
    let (as, rest) ← readMany? readOne count rest
    return (a :: as, rest)

/-- Reads a key and its value. -/
def readPair? (readOne : List UInt8 → Option (Document × List UInt8)) (bytes : List UInt8) :
    Option ((Document × Document) × List UInt8) := do
  let (key, rest) ← readOne bytes
  let (value, rest) ← readOne rest
  return ((key, value), rest)

/-- Reads what a head announces; `readInner` reads one level further in. -/
def readBody? (readInner : Option (List UInt8 → Option (Document × List UInt8))) :
    Head → List UInt8 → Option (Document × List UInt8)
  | .scalar d, bytes => some (d, bytes)
  | .text size, bytes => (split? size bytes).map fun (front, rest) => (textOrBytes front, rest)
  | .bytes size, bytes => (split? size bytes).map fun (front, rest) => (.bytes front, rest)
  | .extension size, bytes => (split? size bytes).map fun (_, rest) => (.foreign, rest)
  | .list count, bytes => do
    let (items, rest) ← readMany? (← readInner) count bytes
    return (.list items, rest)
  | .table count, bytes => do
    let (entries, rest) ← readMany? (readPair? (← readInner)) count bytes
    return (.table entries, rest)

/-- Reads a value whose lists and tables nest at most `levels` deep. -/
def readWithin? : Nat → List UInt8 → Option (Document × List UInt8)
  | 0, bytes => do
    let (head, rest) ← readHead? bytes
    readBody? none head rest
  | levels + 1, bytes => do
    let (head, rest) ← readHead? bytes
    readBody? (some (readWithin? levels)) head rest

/-- Reads the first value of some bytes. -/
def read? (bytes : List UInt8) : Option (Document × List UInt8) := readWithin? nestingLimit bytes

/-- How records are read from MessagePack. -/
def reading : Reading := { numbered := true, levels := nestingLimit }

/-- Reads a record from the first value of some bytes; what is behind it does not matter. -/
def readRecord? (readRecord : Document → Except Fault α) (bytes : List UInt8) : Option α := do
  let (d, _) ← read? bytes
  (readRecord d).toOption

end ScatterGather.MessagePack
