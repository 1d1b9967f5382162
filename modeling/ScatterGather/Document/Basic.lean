import ScatterGather.Binary64.Basic
import ScatterGather.Text.Ascii

/-!
# Documents

A `Document` is what a piece of text or a run of bytes says before anyone knows which record it
is: the common ground of the JSON, MessagePack and TOML readers and of the two writers. Records are
written into it with their fields in declaration order and are read out of it by `Fields.read`,
which visits the entries in the order the text has them, so that the first thing wrong decides.

Reading fails in one of two ways (`Fault`): the document has another shape than the record, or the
text itself goes wrong at the place that is being read. A reader of text that meets an error builds
the document up to there and puts `broken` at that place.
-/

namespace ScatterGather

/-- A value as a text or byte format gives it. -/
inductive Document where
  | nil
  | bool (b : Bool)
  | integer (n : Int)
  | float (x : Binary64)
  | text (s : String)
  | bytes (bs : List UInt8)
  | list (items : List Document)
  | table (entries : List (Document × Document))
  /-- A value of a kind that no record holds. -/
  | foreign
  /-- Well-formed where it is skipped, malformed where it is read. -/
  | unreadable
  /-- The text goes wrong at this place. -/
  | broken
deriving Inhabited

/-- Why a document is not the record that was asked for. -/
inductive Fault where
  /-- The document is well-formed and has another shape. -/
  | shape
  /-- The text goes wrong before the record is complete. -/
  | malformed
deriving DecidableEq, Inhabited, Repr

/-- What differs between formats when a record is read. -/
structure Reading where
  /-- A variant of an enumeration may be given by its number, and its name as bytes. -/
  numbered : Bool := false
  /-- An empty table or list stands for the absent payload of a variant. -/
  emptyPayload : Bool := false
  /-- How many levels of lists and tables may nest in a document that is set aside. -/
  levels : Nat := 1024
deriving Inhabited

namespace Reading

/-- Reading one level of lists and tables further in. -/
def inner (r : Reading) : Reading := { r with levels := r.levels - 1 }

/-- Reading what was set aside first, until the rest of the record said what it is: by then only
names are left of variants. -/
def setAside (r : Reading) : Reading := { r with numbered := false }

end Reading

namespace Document

/-- The fault of a document that cannot be what was asked for. -/
def fault : Document → Fault
  | .unreadable | .broken => .malformed
  | _ => .shape

/-- Reads a truth value. -/
def readBool : Document → Except Fault Bool
  | .bool b => .ok b
  | d => .error d.fault

/-- Reads a whole number below `bound`. -/
def readNat (bound : Nat) : Document → Except Fault Nat
  | .integer n => if 0 ≤ n ∧ n.toNat < bound then .ok n.toNat else .error .shape
  | d => .error d.fault

/-- Reads a whole number of 16 bits. -/
def readUInt16 (d : Document) : Except Fault UInt16 := return UInt16.ofNat (← d.readNat UInt16.size)

/-- Reads a whole number of 32 bits. -/
def readUInt32 (d : Document) : Except Fault UInt32 := return UInt32.ofNat (← d.readNat UInt32.size)

/-- Reads a whole number of 64 bits. -/
def readUInt64 (d : Document) : Except Fault UInt64 := return UInt64.ofNat (← d.readNat UInt64.size)

/-- Bytes as text, when they are UTF-8. -/
def textOfBytes? (bs : List UInt8) : Option String := String.fromUTF8? (ByteArray.mk bs.toArray)

/-- Reads a text; bytes count as one when they are UTF-8. -/
def readText : Document → Except Fault String
  | .text s => .ok s
  | .bytes bs => match textOfBytes? bs with
    | some s => .ok s
    | none => .error .shape
  | d => .error d.fault

/-- Reads what `read` reads, or nothing from a nil. -/
def readOption (read : Document → Except Fault α) : Document → Except Fault (Option α)
  | .nil => .ok none
  | d => some <$> read d

/-- Reads a list of what `read` reads, in order. -/
def readList (read : Document → Except Fault α) : Document → Except Fault (List α)
  | .list items => items.mapM read
  | d => .error d.fault

/-- The nil that stands for the absent payload of a variant. -/
def readPayload (r : Reading) : Document → Except Fault Unit
  | .nil => .ok ()
  | .table [] | .list [] => if r.emptyPayload then .ok () else .error .shape
  | d => .error d.fault

/-- The place of a variant among the names of its enumeration. -/
def readVariantName (r : Reading) (names : List String) : Document → Except Fault Nat
  | .text s => match names.idxOf? s with
    | some i => .ok i
    | none => .error .shape
  | .bytes bs =>
    if r.numbered then
      match (textOfBytes? bs).bind names.idxOf? with
      | some i => .ok i
      | none => .error .shape
    else .error .shape
  | .integer n =>
    if r.numbered ∧ 0 ≤ n ∧ n.toNat < names.length then .ok n.toNat else .error .shape
  | d => .error d.fault

/-- Reads a variant without payload: its name, or a table of the name and an absent payload. A
table without an entry, or with a second one, goes wrong where the other was expected. -/
def readVariant (r : Reading) (names : List String) : Document → Except Fault Nat
  | .table [] => .error .malformed
  | .table [(key, payload)] => do
    let i ← readVariantName r names key
    readPayload r payload
    return i
  | .table ((key, payload) :: _) => do
    let _ ← readVariantName r names key
    readPayload r payload
    throw .malformed
  | d => readVariantName r names d

/-! ### Setting aside

A record whose kind stands in one of its fields is set aside until that field has been found. What
is set aside must be readable to its last value, and nest no deeper than the reading allows.
-/

mutual

/-- A document can be set aside: all of it can be read, and its lists and tables nest at most
`levels` deep. -/
def keepable (levels : Nat) : Document → Bool
  | .list items => 0 < levels && allKeepable (levels - 1) items
  | .table entries => 0 < levels && entriesKeepable (levels - 1) entries
  | .unreadable | .broken => false
  | _ => true

/-- `keepable` for every item. -/
def allKeepable (levels : Nat) : List Document → Bool
  | [] => true
  | d :: ds => d.keepable levels && allKeepable levels ds

/-- `keepable` for every key and every value. -/
def entriesKeepable (levels : Nat) : List (Document × Document) → Bool
  | [] => true
  | (k, v) :: es => k.keepable levels && v.keepable levels && entriesKeepable levels es

end

end Document

/-! ### Records -/

/-- One field of a record that is being filled: its name, whether it has been filled, and how a
document fills it. -/
structure Field (σ : Type) where
  name : String
  filled : σ → Bool
  fill : σ → Document → Except Fault σ

namespace Fields

/-- The field that a key names, by its name or by its number; `none` for a key that names none. -/
def find (fields : List (Field σ)) : Document → Except Fault (Option (Field σ))
  | .text s => .ok (fields.find? (·.name == s))
  | .bytes bs => .ok (fields.find? (some ·.name == Document.textOfBytes? bs))
  | .integer n => if 0 ≤ n then .ok fields[n.toNat]? else .error .shape
  | d => .error d.fault

/-- Fills a field once; a second time is a fault. -/
def fillOnce (f : Field σ) (s : σ) (d : Document) : Except Fault σ :=
  if f.filled s then .error .shape else f.fill s d

/-- Skips a value that no field asks for. -/
def skip : Document → Except Fault Unit
  | .broken => .error .malformed
  | _ => .ok ()

/-- Fills a record from the entries of a table, in the order they stand in. -/
def fromEntries (fields : List (Field σ)) (s : σ) :
    List (Document × Document) → Except Fault σ
  | [] => .ok s
  | (key, value) :: rest => do
    match ← find fields key with
    | some f => fromEntries fields (← fillOnce f s value) rest
    | none => do
      skip value
      fromEntries fields s rest

/-- Fills a record from the items of a list, in the order of its fields. An item too many is
found where the list should end. -/
def fromItems (s : σ) : List (Field σ) → List Document → Except Fault σ
  | _, [] => .ok s
  | [], _ :: _ => .error .malformed
  | f :: fs, d :: ds => do fromItems (← f.fill s d) fs ds

/-- Fills a record from a document: a table by name, a list by position. -/
def read (fields : List (Field σ)) (empty : σ) : Document → Except Fault σ
  | .table entries => fromEntries fields empty entries
  | .list items => fromItems empty fields items
  | d => .error d.fault

/-- The value of a field that must be there. -/
def need : Option α → Except Fault α
  | some a => .ok a
  | none => .error .shape

end Fields

end ScatterGather
