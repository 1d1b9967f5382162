import ScatterGather.Log
import ScatterGather.Text.Ascii

/-!
# Versions of table metadata

Every reload of a table's metadata raises its version by one. Names are taken without regard to
ASCII case; they are kept in lower case and ascend.
-/

namespace ScatterGather

/-- The version of each table that has been reloaded. -/
structure TableVersions where
  /-- Lower-case names, ascending, with their versions. -/
  entries : List (String × UInt64)
deriving Inhabited, Repr

namespace TableVersions

/-- No table has been reloaded. -/
def empty : TableVersions := ⟨[]⟩

/-- Raises the version of a name in its place. -/
def raise (name : String) : List (String × UInt64) → List (String × UInt64)
  | [] => [(name, 1)]
  | (n, v) :: rest =>
    if name < n then (name, 1) :: (n, v) :: rest
    else if name = n then (n, v + 1) :: rest
    else (n, v) :: raise name rest

/-- The version of a table; zero when it has never been reloaded. -/
def version (t : TableVersions) (table : String) : UInt64 :=
  (t.entries.lookup (Text.asciiLower table)).getD 0

/-- The names of the tables that have been reloaded, ascending. -/
def tables (t : TableVersions) : List String := t.entries.map (·.1)

/-- Reloads the metadata of a table. -/
def refresh (t : TableVersions) (table : String) : TableVersions :=
  ⟨raise (Text.asciiLower table) t.entries⟩

/-- The report of a reload, in the caller's spelling of the name. -/
def refreshLine (t : TableVersions) (table : String) : LogLine :=
  .info (s!"Reloaded metadata of table '{table}' (version "
    ++ s!"{((t.refresh table).version table).toNat})")

end TableVersions

end ScatterGather
