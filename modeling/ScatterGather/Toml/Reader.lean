import ScatterGather.Toml.Scalar
import ScatterGather.Toml.Table

/-!
# Reading TOML

A text is read line by line: a header opens a table, and a key with its value goes into the table
that is open. `read?` gives the whole as a document, or nothing when anything in it is wrong.
-/

namespace ScatterGather.Toml

mutual

/-- Reads a value; lists and tables nest at most `levels` deep. -/
def value? : Nat → Nat → Reader Document
  | 0, _, _ => none
  | fuel + 1, levels, cs =>
    match cs, levels with
    | '[' :: _, 0 | '\x7b' :: _, 0 => none
    | '[' :: rest, levels + 1 => do
      let (items, rest) ← items? fuel levels rest
      return (.list items, rest)
    | '\x7b' :: rest, levels + 1 =>
      match skipBlanks rest with
      | '\x7d' :: rest => some (.table [], rest)
      | rest => do
        let (entries, rest) ← pairs? fuel levels [] rest
        return (.table (Node.entryDocuments entries), rest)
    | cs, _ => scalar? cs

/-- Reads the items of a list and its closing bracket. -/
def items? : Nat → Nat → Reader (List Document)
  | 0, _, _ => none
  | fuel + 1, levels, cs =>
    match skipLines cs.length cs with
    | ']' :: rest => some ([], rest)
    | cs => do
      let (d, rest) ← value? fuel levels cs
      match skipLines rest.length rest with
      | ',' :: rest => do
        let (ds, rest) ← items? fuel levels rest
        return (d :: ds, rest)
      | ']' :: rest => return ([d], rest)
      | _ => none

/-- Reads the entries of a table in braces and its closing brace. -/
def pairs? : Nat → Nat → Entries → Reader Entries
  | 0, _, _, _ => none
  | fuel + 1, levels, es, cs => do
    let (key, rest) ← key? cs
    let (d, rest) ← value? fuel levels (skipBlanks (← word? "=" rest))
    let es ← Entries.add key d es
    match skipBlanks rest with
    | ',' :: rest => pairs? fuel levels es rest
    | '\x7d' :: rest => return (es, rest)
    | _ => none

end

/-- The entries read so far, and the table that is open. -/
structure Progress where
  entries : Entries
  table : List String

/-- Reads a line that is not empty. -/
def line? (p : Progress) : Reader Progress := fun cs =>
  match cs with
  | '[' :: '[' :: rest => do
    let (header, rest) ← key? rest
    let rest ← endLine? (← word? "]]" rest)
    return (⟨← p.entries.openNext header, header⟩, rest)
  | '[' :: rest => do
    let (header, rest) ← key? rest
    let rest ← endLine? (← word? "]" rest)
    return (⟨← p.entries.openTable header, header⟩, rest)
  | cs => do
    let (key, rest) ← key? cs
    let (d, rest) ← value? (2 * cs.length) (maxLevels - 1) (skipBlanks (← word? "=" rest))
    let rest ← endLine? rest
    return (⟨← p.entries.addAt p.table key d, p.table⟩, rest)

/-- Reads lines to the end. -/
def lines? : Nat → Progress → List Char → Option Entries
  | 0, _, _ => none
  | fuel + 1, p, cs =>
    match skipBlanks cs with
    | [] => some p.entries
    | cs =>
      match endLine? cs with
      | some rest => lines? fuel p rest
      | none => do
        let (p, rest) ← line? p cs
        lines? fuel p rest

/-- Reads a text, behind its byte order mark if it has one: the entries of its outermost table. -/
def read? (text : String) : Option (List (String × Document)) := do
  let cs := match text.toList with
    | '\uFEFF' :: rest => rest
    | cs => cs
  let entries ← lines? (cs.length + 1) ⟨[], []⟩ cs
  return entries.map fun e => (e.1, e.2.toDocument)

/-- How records are read from TOML. -/
def reading : Reading := { emptyPayload := true }

end ScatterGather.Toml
