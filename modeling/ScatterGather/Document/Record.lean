import ScatterGather.Document.Basic

/-!
# Building blocks for the forms of records

Every record type of the library has a written form, a `Document`, and a reader of it. Enumerations
share theirs through `Named`; a record's reader fills a draft with optional fields, made with
`Field.of`, and asks for the ones that must be there at the end.
-/

namespace ScatterGather

/-- An enumeration whose members are written by name. The names are distinct, and `all` lists the
members in the order in which they are numbered. -/
class Named (α : Type) where
  all : List α
  name : α → String

namespace Named

/-- A member by its name. -/
def toDocument [Named α] (a : α) : Document := .text (name a)

/-- Reads a member. -/
def ofDocument [Named α] (r : Reading) (d : Document) : Except Fault α := do
  let i ← d.readVariant r ((all : List α).map name)
  match (all : List α)[i]? with
  | some a => return a
  | none => throw .shape

/-- The member of a name. -/
def ofName? [Named α] (s : String) : Option α := (all : List α).find? (name · == s)

end Named

/-- A field of a draft, given by how its value is got, put and read. -/
def Field.of (name : String) (get : σ → Option α) (put : σ → α → σ)
    (read : Document → Except Fault α) : Field σ where
  name := name
  filled s := (get s).isSome
  fill s d := put s <$> read d

namespace Document

/-- A table with text keys. -/
def record (fields : List (String × Document)) : Document :=
  .table (fields.map fun f => (.text f.1, f.2))

/-- A whole number. -/
def ofNat (n : Nat) : Document := .integer n

/-- An optional value, nil when it is absent. -/
def ofOption (f : α → Document) : Option α → Document
  | some a => f a
  | none => .nil

/-- A field that is left out when it has no value. -/
def optionalField (name : String) (f : α → Document) : Option α → List (String × Document)
  | some a => [(name, f a)]
  | none => []

end Document

/-! ### Written forms -/

/-- A type whose values are written as documents and read out of them. -/
class Written (α : Type) where
  write : α → Document
  read (r : Reading) : Document → Except Fault α

instance [Named α] : Written α := ⟨Named.toDocument, Named.ofDocument⟩

instance : Written String := ⟨.text, fun _ => Document.readText⟩

instance : Written UInt16 := ⟨fun n => .ofNat n.toNat, fun _ => Document.readUInt16⟩

instance : Written UInt32 := ⟨fun n => .ofNat n.toNat, fun _ => Document.readUInt32⟩

instance : Written UInt64 := ⟨fun n => .ofNat n.toNat, fun _ => Document.readUInt64⟩

instance [Written α] : Written (List α) :=
  ⟨fun as => .list (as.map Written.write), fun r => Document.readList (Written.read r)⟩

instance [Written α] : Written (Option α) :=
  ⟨Document.ofOption Written.write, fun r => Document.readOption (Written.read r)⟩

end ScatterGather
