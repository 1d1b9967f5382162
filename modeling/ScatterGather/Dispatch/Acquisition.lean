import ScatterGather.Log
import ScatterGather.Route.Basic

/-!
# Acquiring one resource per data source

Before a statement sends anything it acquires a connection or a channel for each of its data
sources, in the order of the groups, one after another; a refusal ends it, and what is held then is
given back. What happens to resources and statements is recorded as `DispatchEvent`s.
-/

namespace ScatterGather

/-- What happens on behalf of a call: resources come and go, and statements are sent. -/
inductive DispatchEvent (μ : Type) where
  | requested (call : Nat) (source : String)
  | acquired (call : Nat) (source : String)
  | released (call : Nat) (source : String)
  | sent (call : Nat) (source : String) (message : μ)
deriving Inhabited

namespace DispatchEvent

/-- A resource came. -/
def isAcquired : DispatchEvent μ → Bool
  | .acquired _ _ => true
  | _ => false

/-- A resource went back. -/
def isReleased : DispatchEvent μ → Bool
  | .released _ _ => true
  | _ => false

/-- The call that gave a resource back, and the data source it is for. -/
def release? : DispatchEvent μ → Option (Nat × String)
  | .released call source => some (call, source)
  | _ => none

end DispatchEvent

/-- How far a call has come in acquiring what its groups need. -/
structure Acquisition where
  /-- The groups whose resource is held. -/
  held : List UnitGroup
  /-- The resource of the next group has been asked for. -/
  asked : Bool
  /-- The groups whose resource is not held. -/
  todo : List UnitGroup
deriving Inhabited

namespace Acquisition

/-- Nothing is held yet. -/
def ofGroups (groups : List UnitGroup) : Acquisition := ⟨[], false, groups⟩

/-- Asks for the next resource; the data source it is for. -/
def ask? (a : Acquisition) : Option (String × Acquisition) :=
  match a.asked, a.todo with
  | false, group :: _ => some (group.dataSource, { a with asked := true })
  | _, _ => none

/-- The resource that was asked for is there; the data source it is for. -/
def grant? (a : Acquisition) : Option (String × Acquisition) :=
  match a.asked, a.todo with
  | true, group :: rest => some (group.dataSource, ⟨a.held ++ [group], false, rest⟩)
  | _, _ => none

/-- All resources are held. -/
def complete (a : Acquisition) : Bool := !a.asked && a.todo.isEmpty

/-- The events of giving back what the groups hold. -/
def releases (call : Nat) (groups : List UnitGroup) : List (DispatchEvent μ) :=
  groups.map fun g => .released call g.dataSource

end Acquisition

/-- The report about a statement that is sent. -/
def actualSqlLine (u : PhysicalUnit) : LogLine :=
  .info ("Actual SQL: " ++ u.dataSource ++ " ::: " ++ u.sql)

/-- The report about a statement that is sent, where statements are reported. -/
def sqlLines (showSql : Bool) (u : PhysicalUnit) : List LogLine :=
  if showSql then [actualSqlLine u] else []

end ScatterGather
