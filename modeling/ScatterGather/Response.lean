import ScatterGather.Log
import ScatterGather.Outcome.Basic

/-!
# The response of a dispatch

All units of a statement have answered, in dispatch order. The first of them decides whether the
response is one of rows or one of counts; outcomes of the other shape are left out, with a warning
for each (`Response.warnings`). The metadata of a row response is that of the first rows that carry
any.
-/

namespace ScatterGather

/-- What a dispatch gave, before merging. -/
inductive Response where
  | query (metadata : QueryMetadata) (results : List UnitCursor)
  | update (units : List UpdateOutcome)
deriving Inhabited

namespace Response

/-- The response of a route without units. -/
def empty : Response := .update []

/-- The response is one of rows. -/
def isQuery : Response → Bool
  | .query .. => true
  | .update _ => false

/-- The response made of unit outcomes in dispatch order. -/
def ofUnits (units : List Success) : Except ExecutionError Response :=
  match units with
  | .query _ :: _ =>
    let queries := units.filterMap Success.query?
    match queries.findSome? (·.metadata) with
    | some metadata => .ok (.query metadata (queries.map (·.rows)))
    | none => .error (.invalidState .noMetadata)
  | _ => .ok (.update (units.filterMap Success.update?))

/-- The warning about an outcome that is left out of a response of the given shape. -/
def warning? (isQuery : Bool) : Success → Option LogLine
  | .update u =>
    if isQuery then
      some (.warn s!"Skipping update outcome ({u.affectedRows.toNat} rows) inside a query response")
    else none
  | .query _ =>
    if isQuery then none else some (.warn "Skipping query outcome inside an update response")

/-- The warnings about the outcomes that are left out. -/
def warnings (units : List Success) : List LogLine :=
  match units with
  | [] => []
  | first :: _ => units.filterMap (warning? first.isQuery)

/-- The debug text of a response. -/
def debug : Response → String
  | .query metadata results =>
    Text.debugRecord "Query" [("metadata", metadata.debug), ("results", toString results.length)]
  | .update units =>
    Text.debugRecord "Update" [("units", Text.debugList (units.map UpdateOutcome.debug))]

end Response

end ScatterGather
