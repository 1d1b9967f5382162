import ScatterGather.Rehearsal.Script

/-!
# Rehearsing one connection or channel

A connection or a channel is acquired, statements go out over it one after another, whatever comes
of them, and it is given back. `Counts` are taken after each statement and at the end.
-/

namespace ScatterGather.Rehearsal

/-- What is acquired. -/
inductive Link where
  | connection
  | channel
deriving DecidableEq, Inhabited, Repr

/-- How often something has been acquired and given back, and how many statements have gone out. -/
structure Counts where
  acquired : Nat
  released : Nat
  reached : Nat
deriving DecidableEq, Inhabited, Repr

/-- What a statement gives: its outcome over a connection, nothing over a channel. -/
abbrev LinkAnswer := Except ExecutionError (Option Outcome)

/-- A link that was used. -/
structure LinkUse where
  steps : List (LinkAnswer × Counts)
  final : Counts

namespace Link

/-- What a statement gives. -/
def answer (link : Link) (script : Script) (sql : String) : LinkAnswer :=
  match link with
  | .connection =>
    match script.answer sql with
    | .result r => some <$> r
    | .panic message => .error (.unknown (.taskPanicked message))
  | .channel =>
    match script.failures.lookup sql with
    | some e => .error e
    | none => .ok none

/-- Acquires a link, sends statements over it, and gives it back; or says why it was refused. -/
def use (link : Link) (script : Script) (source : String) (sqls : List String) :
    Except ExecutionError LinkUse :=
  match script.refusal source with
  | some e => .error e
  | none =>
    .ok ⟨sqls.mapIdx fun i sql => (link.answer script sql, ⟨1, 0, i + 1⟩), ⟨1, 1, sqls.length⟩⟩

/-- The counts of a link that was refused. -/
def refused : Counts := ⟨0, 0, 0⟩

end Link

end ScatterGather.Rehearsal
