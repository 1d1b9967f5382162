import ScatterGather.Config.Basic
import ScatterGather.Rehearsal.Session
import ScatterGather.SystemFault
import ScatterGather.Wire.Exchange

/-!
# Rehearsing on a network that leads nowhere

Every address of a data source is malformed or has no route to it, so no connect ever succeeds.
-/

namespace ScatterGather.Rehearsal

/-- Where a data source is said to be. -/
inductive Destination where
  /-- There is no route to it. -/
  | unrouted (shown : String)
  | address (text : String)
deriving DecidableEq, Inhabited, Repr

namespace Destination

/-- The address as it is shown. -/
def shown : Destination → String
  | .unrouted shown => shown
  | .address text => text

/-- Why an address leads nowhere: it is malformed, or there is no route to it. -/
def addressFault (text : String) : String :=
  match Address.parse text with
  | .ok _ => SystemFault.noRoute.text
  | .error fault => fault

/-- Why a connect fails. -/
def fault : Destination → String
  | .unrouted _ => SystemFault.noRoute.text
  | .address text => addressFault text

end Destination

/-- Why a data source cannot be reached, by the names that are known. -/
def refusalOf (known : List (String × Destination)) (source : String) : ExecutionError :=
  match known.lookup source with
  | some d => .resource (.cannotConnect source d.shown d.fault)
  | none => .resource (.unknownSource source)

/-- The script of data sources that cannot be reached. -/
def Script.nowhere (known : List (String × Destination)) : Script where
  refusal source := some (refusalOf known source)

/-- The setting that a configuration asks for. -/
def Setting.ofConfig (c : Config) (parallelism : Nat) : Setting where
  mode := c.mode
  connectionMode := c.connectionMode
  workers := c.workers parallelism
  fetchSize := some c.fetchSize
  timeout := c.backendTimeout
  showSql := c.showSql
  transactionType := c.transactionType
  strategy := .concatenate
  dataSources := c.dataSources.map (·.1)
  requestType := c.transactionType
  transactionShared := true
  counted := []

end ScatterGather.Rehearsal
