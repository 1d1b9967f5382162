import ScatterGather.Outcome.Basic

/-!
# The counts of a whole statement

The affected rows of all units are added up and stop at the greatest number of 64 bits; the
generated id is the first one that is not zero.
-/

namespace ScatterGather

/-- `a + b`, or the greatest number when the sum is beyond it. -/
def addSaturating (a b : UInt64) : UInt64 :=
  UInt64.ofNat (min (a.toNat + b.toNat) (UInt64.size - 1))

/-- The counts of a statement. -/
structure UpdateSummary where
  affectedRows : UInt64
  lastInsertId : UInt64
deriving DecidableEq, Inhabited, Repr

namespace UpdateSummary

/-- No rows, no generated id. -/
def zero : UpdateSummary := ⟨0, 0⟩

/-- The counts of one unit. -/
def ofOutcome (u : UpdateOutcome) : UpdateSummary := ⟨u.affectedRows, u.lastInsertId⟩

/-- The counts of two parts of a statement taken together. -/
def add (a b : UpdateSummary) : UpdateSummary :=
  ⟨addSaturating a.affectedRows b.affectedRows,
   if a.lastInsertId = 0 then b.lastInsertId else a.lastInsertId⟩

/-- The counts of all units. -/
def merge (units : List UpdateOutcome) : UpdateSummary :=
  units.foldl (fun s u => s.add (ofOutcome u)) zero

/-- The counts of the first unit. -/
def first (units : List UpdateOutcome) : UpdateSummary :=
  match units with
  | [] => zero
  | u :: _ => ofOutcome u

/-- The written form of the counts. -/
def toDocument (s : UpdateSummary) : Document :=
  .record [("affected_rows", .ofNat s.affectedRows.toNat),
    ("last_insert_id", .ofNat s.lastInsertId.toNat)]

/-- Reads counts. -/
def ofDocument (d : Document) : Except Fault UpdateSummary :=
  ofOutcome <$> UpdateOutcome.ofDocument d

instance : Written UpdateSummary := ⟨toDocument, fun _ => ofDocument⟩

/-- The debug text of the counts. -/
def debug (s : UpdateSummary) : String :=
  Text.debugRecord "MergedUpdateResult"
    (UpdateOutcome.debugFields ⟨s.affectedRows, s.lastInsertId⟩)

end UpdateSummary

end ScatterGather
