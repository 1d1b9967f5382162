import ScatterGather.Document.Record

/-!
# Tables as they are filled

A table comes about in one of three ways: under a header of its own, on the way to the header of a
table below it, or by keys of several parts. That decides what may be added to it later: a table
gets a header once, keys of several parts do not reach into tables with headers, and headers do not
name tables made by keys. A value is never changed.
-/

namespace ScatterGather.Toml

/-- How a table has come about. -/
inductive TableKind where
  /-- Under a header of its own. -/
  | header
  /-- On the way to a header. -/
  | implied
  /-- By keys of several parts. -/
  | dotted
deriving DecidableEq, Inhabited, Repr

/-- What stands under a key. -/
inductive Node where
  | value (d : Document)
  | table (kind : TableKind) (entries : List (String × Node))
  /-- Tables under headers of one name; the last is the one that is filled. -/
  | tables (earlier : List (List (String × Node))) (last : List (String × Node))
deriving Inhabited

/-- The entries of a table. -/
abbrev Entries := List (String × Node)

namespace Node

mutual

/-- A node as a document. -/
def toDocument : Node → Document
  | .value d => d
  | .table _ entries => .table (entryDocuments entries)
  | .tables earlier last => .list (tableDocuments earlier ++ [.table (entryDocuments last)])

/-- Entries as those of a document. -/
def entryDocuments : List (String × Node) → List (Document × Document)
  | [] => []
  | (k, n) :: rest => (.text k, n.toDocument) :: entryDocuments rest

/-- Tables as documents. -/
def tableDocuments : List (List (String × Node)) → List Document
  | [] => []
  | entries :: rest => .table (entryDocuments entries) :: tableDocuments rest

end

end Node

namespace Entries

/-- Puts a node in the place of the one under a key. -/
def replace (key : String) (n : Node) (es : Entries) : Entries :=
  es.map fun e => if e.1 = key then (key, n) else e

/-- Changes the table at a path; tables on the way that are not there yet are made. -/
def change (way : TableKind) (f : TableKind → Entries → Option Entries) :
    List String → TableKind → Entries → Option Entries
  | [], kind, es => f kind es
  | key :: path, _, es =>
    match es.lookup key with
    | none => do return es ++ [(key, .table way (← change way f path way []))]
    | some (.value _) => none
    | some (.tables earlier last) => do
      return replace key (.tables earlier (← change way f path .header last)) es
    | some (.table kind inner) =>
      if way = .dotted ∧ kind = .header then none
      else do return replace key (.table kind (← change way f path kind inner)) es

/-- Adds a value under a key of several parts, below a table that was not made by such a key. -/
def add (key : List String) (d : Document) (es : Entries) : Option Entries := do
  let name ← key.getLast?
  let path := key.dropLast
  let put (kind : TableKind) (es : Entries) : Option Entries :=
    if path.isEmpty == (kind == .dotted) || (es.lookup name).isSome then none
    else some (es ++ [(name, .value d)])
  change .dotted put path .header es

/-- Adds a value below the table at a path. -/
def addAt (table key : List String) (d : Document) (es : Entries) : Option Entries :=
  change .implied (fun _ es => add key d es) table .header es

/-- Opens the table of a header. -/
def openTable (header : List String) (es : Entries) : Option Entries := do
  let name ← header.getLast?
  let put (_ : TableKind) (es : Entries) : Option Entries :=
    match es.lookup name with
    | none => some (es ++ [(name, .table .header [])])
    | some (.table .implied inner) => some (replace name (.table .header inner) es)
    | some _ => none
  change .implied put header.dropLast .header es

/-- Opens one more table under a header of several. -/
def openNext (header : List String) (es : Entries) : Option Entries := do
  let name ← header.getLast?
  let put (_ : TableKind) (es : Entries) : Option Entries :=
    match es.lookup name with
    | none => some (es ++ [(name, .tables [] [])])
    | some (.tables earlier last) => some (replace name (.tables (earlier ++ [last]) []) es)
    | some _ => none
  change .implied put header.dropLast .header es

end Entries

end ScatterGather.Toml
