/-!
# Rehearsing tasks on a clock of their own

A rehearsal runs tasks one step at a time and lets time pass only when none of them can go on: then
the clock jumps to the next entry of the `Agenda`. So delays are exact numbers of milliseconds.
-/

namespace ScatterGather.Rehearsal

/-- What is to happen, and when; ascending in time, entries of one time in the order in which they
were made. -/
abbrev Agenda (ε : Type) := List (Nat × ε)

/-- Makes an entry behind those of the same time. -/
def Agenda.insert (time : Nat) (event : ε) : Agenda ε → Agenda ε
  | [] => [(time, event)]
  | (t, e) :: rest =>
    if t ≤ time then (t, e) :: Agenda.insert time event rest else (time, event) :: (t, e) :: rest

/-- The first of the tasks that can take a step takes it, again and again, for at most `fuel`
steps. -/
def settle (advance : σ → Nat → Option σ) (tasks : σ → Nat) : Nat → σ → σ
  | 0, s => s
  | fuel + 1, s =>
    match (List.range (tasks s)).findSome? (advance s) with
    | some s' => settle advance tasks fuel s'
    | none => s

/-- One task takes steps as long as it can, at most `fuel` of them. -/
def finish (advance : σ → Nat → Option σ) (task : Nat) : Nat → σ → σ
  | 0, s => s
  | fuel + 1, s =>
    match advance s task with
    | some s' => finish advance task fuel s'
    | none => s

/-- The sum of numbers. -/
def total (ns : List Nat) : Nat := ns.foldr (· + ·) 0

/-- More steps than a task takes between two waits. -/
def stepsPerTask : Nat := 16

/-- A clock, what is to happen, and the state of the tasks. -/
structure Clocked (σ ε : Type) where
  now : Nat
  agenda : Agenda ε
  state : σ
deriving Inhabited

namespace Clocked

/-- Makes an entry so many milliseconds ahead. -/
def after (c : Clocked σ ε) (delay : Nat) (event : ε) : Clocked σ ε :=
  { c with agenda := Agenda.insert (c.now + delay) event c.agenda }

/-- Changes the state. -/
def update (c : Clocked σ ε) (f : σ → σ) : Clocked σ ε := { c with state := f c.state }

/-- The next entry that is due by `limit`, taken off, with the clock at its time. -/
def next? (limit : Nat) (c : Clocked σ ε) : Option (ε × Clocked σ ε) :=
  match c.agenda with
  | (time, event) :: rest =>
    if time ≤ limit then some (event, ⟨max c.now time, rest, c.state⟩) else none
  | [] => none

/-- Lets what is due by `limit` happen, at most `fuel` entries. -/
def runUntil (fire : ε → Clocked σ ε → Clocked σ ε) (limit : Nat) :
    Nat → Clocked σ ε → Clocked σ ε
  | 0, c => c
  | fuel + 1, c =>
    match c.next? limit with
    | some (event, c) => runUntil fire limit fuel (fire event c)
    | none => c

/-- Lets time pass, with all that happens in it, at most `fuel` entries. -/
def sleep (fire : ε → Clocked σ ε → Clocked σ ε) (fuel delay : Nat) (c : Clocked σ ε) :
    Clocked σ ε :=
  let limit := c.now + delay
  { runUntil fire limit fuel c with now := limit }

/-- Lets time pass until the state is as wanted, for at most `fuel` entries. -/
def await (fire : ε → Clocked σ ε → Clocked σ ε) (wanted : σ → Bool) :
    Nat → Clocked σ ε → Clocked σ ε
  | 0, c => c
  | fuel + 1, c =>
    if wanted c.state then c
    else
      match c.agenda with
      | (time, event) :: rest => await fire wanted fuel (fire event ⟨max c.now time, rest, c.state⟩)
      | [] => c

end Clocked

end ScatterGather.Rehearsal
