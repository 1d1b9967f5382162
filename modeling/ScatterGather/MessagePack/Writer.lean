import ScatterGather.Document.Basic

/-!
# Writing documents as MessagePack

Every integer, text, list and table takes the shortest of its forms; tables keep the order of their
entries. Bytes are put behind those written so far, so that a long text is copied once.
-/

namespace ScatterGather.MessagePack

/-- The last `width` bytes of a number, the most significant first. -/
def bigEndian : Nat → Nat → List UInt8
  | 0, _ => []
  | width + 1, n => UInt8.ofNat (n / Nat.pow 256 width) :: bigEndian width n

/-- Puts bytes behind others. -/
def putBytes (out : ByteArray) (bytes : List UInt8) : ByteArray := bytes.foldl ByteArray.push out

/-- The bytes of a natural number. -/
def natural (n : Nat) : List UInt8 :=
  if n < 0x80 then [UInt8.ofNat n]
  else if n < 0x100 then 0xcc :: bigEndian 1 n
  else if n < 0x10000 then 0xcd :: bigEndian 2 n
  else if n < 0x100000000 then 0xce :: bigEndian 4 n
  else 0xcf :: bigEndian 8 n

/-- The bytes of the number `-1 - n`. -/
def negative (n : Nat) : List UInt8 :=
  if n < 0x20 then [UInt8.ofNat (255 - n)]
  else if n < 0x80 then 0xd0 :: bigEndian 1 (0xff - n)
  else if n < 0x8000 then 0xd1 :: bigEndian 2 (0xffff - n)
  else if n < 0x80000000 then 0xd2 :: bigEndian 4 (0xffffffff - n)
  else 0xd3 :: bigEndian 8 (0xffffffffffffffff - n)

/-- The bytes of a whole number of 64 bits. -/
def integer : Int → List UInt8
  | .ofNat n => natural n
  | .negSucc n => negative n

/-- The head of a text of so many bytes. -/
def textHead (n : Nat) : List UInt8 :=
  if n < 0x20 then [UInt8.ofNat (0xa0 + n)]
  else if n < 0x100 then 0xd9 :: bigEndian 1 n
  else if n < 0x10000 then 0xda :: bigEndian 2 n
  else 0xdb :: bigEndian 4 n

/-- The head of so many plain bytes. -/
def bytesHead (n : Nat) : List UInt8 :=
  if n < 0x100 then 0xc4 :: bigEndian 1 n
  else if n < 0x10000 then 0xc5 :: bigEndian 2 n
  else 0xc6 :: bigEndian 4 n

/-- The head of a list of so many items. -/
def listHead (n : Nat) : List UInt8 :=
  if n < 0x10 then [UInt8.ofNat (0x90 + n)]
  else if n < 0x10000 then 0xdc :: bigEndian 2 n
  else 0xdd :: bigEndian 4 n

/-- The head of a table of so many entries. -/
def tableHead (n : Nat) : List UInt8 :=
  if n < 0x10 then [UInt8.ofNat (0x80 + n)]
  else if n < 0x10000 then 0xde :: bigEndian 2 n
  else 0xdf :: bigEndian 4 n

mutual

/-- Puts a document behind the bytes written so far. -/
def put (out : ByteArray) : Document → ByteArray
  | .bool b => out.push (if b then 0xc3 else 0xc2)
  | .integer n => putBytes out (integer n)
  | .float x => putBytes out (0xcb :: bigEndian 8 x.bits.toNat)
  | .text s => putBytes out (textHead s.utf8ByteSize) ++ s.toUTF8
  | .bytes bs => putBytes (putBytes out (bytesHead bs.length)) bs
  | .list items => putAll (putBytes out (listHead items.length)) items
  | .table entries => putEntries (putBytes out (tableHead entries.length)) entries
  | .nil | .foreign | .unreadable | .broken => out.push 0xc0

/-- Puts every item behind the bytes written so far. -/
def putAll (out : ByteArray) : List Document → ByteArray
  | [] => out
  | d :: ds => putAll (put out d) ds

/-- Puts every key and value behind the bytes written so far. -/
def putEntries (out : ByteArray) : List (Document × Document) → ByteArray
  | [] => out
  | (k, v) :: es => putEntries (put (put out k) v) es

end

/-- The bytes of a document. -/
def write (d : Document) : ByteArray := put .empty d

end ScatterGather.MessagePack
