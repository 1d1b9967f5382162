import Mathlib.Data.List.Basic
import ScatterGather.Cursor.Concatenation

/-!
# What is asked of cursors that are read one after another

Nothing is assumed here about a cursor: its calls of `next` may find a row, find none or fail, in
any order. Which call is made on which cursor does not show in what a concatenation answers, so its
code is written once more over any way to ask a cursor (`Concatenation.nextWith`). Asked plainly it
is `Concatenation.next` (`Concatenation.next_eq_nextWith`); asked with a record of every call, on
cursors that carry their place in the list, it leaves the calls behind (`Concatenation.calls`).

What was called and what is left of the cursors fit together (`Read`): each cursor before the one
that is being read was asked up to the first time it found no row, and those behind it were not
asked. One call of `next` keeps this (`Read.next`), and every claim about the calls is read off it.
The main statement is `concatenation_lossless`.
-/

namespace ScatterGather

/-- A place in two lists, one behind the other, is a place in one of them. -/
theorem append_eq_append_cons {α : Type} {l l' before after : List α} {x : α}
    (h : l ++ l' = before ++ x :: after) :
    (∃ after', l = before ++ x :: after') ∨
      ∃ before', before = l ++ before' ∧ l' = before' ++ x :: after := by
  rcases List.append_eq_append_iff.mp h with ⟨before', hbefore, hl'⟩ | ⟨after', hl, hafter⟩
  · exact .inr ⟨before', hbefore, hl'⟩
  · cases after' with
    | nil => exact .inr ⟨[], by simp [hl], by simpa using hafter.symm⟩
    | cons z after' =>
        obtain ⟨rfl, -⟩ := List.cons.inj hafter
        exact .inl ⟨after', hl⟩

variable {κ : Type}

theorem not_lt_front {u v : κ × Nat} {rest : List (κ × Nat)}
    (h : (u :: rest).Pairwise (·.2 < ·.2)) (hv : v ∈ u :: rest) : ¬v.2 < u.2 := by
  rcases List.mem_cons.mp hv with rfl | hv
  · exact Nat.lt_irrefl _
  · exact Nat.lt_asymm (List.rel_of_pairwise_cons h hv)

variable [RowCursor κ]

/-! ### One cursor, call by call -/

namespace RowCursor

/-- A cursor after the first `n` calls of `next`. -/
def after (c : κ) : Nat → κ
  | 0 => c
  | n + 1 => (next (after c n)).2

/-- What the call of `next` behind the first `n` calls answers. -/
def said (c : κ) (n : Nat) : Except ExecutionError Bool := (next (after c n)).1

theorem after_after (c : κ) (m n : Nat) : after (after c m) n = after c (m + n) := by
  induction n with
  | zero => rfl
  | succ n ih => rw [after, ih, ← Nat.add_assoc, after]

theorem said_after (c : κ) (m n : Nat) : said (after c m) n = said c (m + n) := by
  rw [said, after_after, said]

/-- The row that a call of `next` has found, by its answer: what the cursor then shows. -/
def found (answer : Except ExecutionError Bool) (row : Nat → Except ExecutionError Cell) :
    Option (Nat → Except ExecutionError Cell) :=
  match answer with
  | .ok true => some row
  | _ => none

/-- The rows that the first `n` calls of `next` find. -/
def visited (c : κ) (n : Nat) : List (Nat → Except ExecutionError Cell) :=
  (List.range n).filterMap fun k => found (said c k) (value (after c (k + 1)))

theorem visited_succ (c : κ) (n : Nat) :
    visited c (n + 1) = visited c n ++ (found (said c n) (value (after c (n + 1)))).toList := by
  rw [visited, List.range_succ, List.filterMap_append, ← visited]
  cases h : found (said c n) (value (after c (n + 1))) <;> simp [h]

end RowCursor

open RowCursor

/-- A call of `next` on one of several cursors. -/
structure UnitCall where
  /-- The place of the cursor in the list. -/
  unit : Nat
  /-- What the call answered. -/
  answer : Except ExecutionError Bool
  /-- What the cursor shows in its columns after the call. -/
  row : Nat → Except ExecutionError Cell

namespace UnitCall

/-- The call that comes behind the first `k` calls on a cursor. -/
def nth (u : κ × Nat) (k : Nat) : UnitCall := ⟨u.2, said u.1 k, value (after u.1 (k + 1))⟩

/-- The row that a call has found. -/
def row? (x : UnitCall) : Option (Nat → Except ExecutionError Cell) := found x.answer x.row

/-- The first `k` calls on a cursor. -/
def firstOf (u : κ × Nat) (k : Nat) : List UnitCall := (List.range k).map (nth u)

theorem firstOf_succ (u : κ × Nat) (k : Nat) :
    firstOf u (k + 1) = firstOf u k ++ [nth u k] := by
  simp [firstOf, List.range_succ]

theorem exists_of_mem_firstOf {u : κ × Nat} {k : Nat} {x : UnitCall} (h : x ∈ firstOf u k) :
    ∃ j < k, nth u j = x := by
  obtain ⟨j, hj, rfl⟩ := List.mem_map.mp h
  exact ⟨j, List.mem_range.mp hj, rfl⟩

theorem unit_of_mem_firstOf {u : κ × Nat} {k : Nat} {x : UnitCall} (h : x ∈ firstOf u k) :
    x.unit = u.2 := by
  obtain ⟨j, -, rfl⟩ := exists_of_mem_firstOf h
  rfl

theorem answer_of_mem_firstOf {u : κ × Nat} {k : Nat} {x : UnitCall}
    (h : ∀ j < k, said u.1 j ≠ .ok false) (hx : x ∈ firstOf u k) : x.answer ≠ .ok false := by
  obtain ⟨j, hj, rfl⟩ := exists_of_mem_firstOf hx
  exact h j hj

theorem nth_mem_firstOf (u : κ × Nat) (k : Nat) : nth u k ∈ firstOf u (k + 1) := by
  simp [firstOf_succ]

end UnitCall

/-- The rows that the first calls on a cursor have found are those that it visits. -/
theorem UnitCall.filterMap_firstOf (u : κ × Nat) (k : Nat) :
    (firstOf u k).filterMap row? = visited u.1 k := by
  rw [firstOf, List.filterMap_map]
  rfl

/-! ### The code, over any way to ask a cursor -/

namespace Concatenation

section

variable {α : Type} {m : Type → Type} [Monad m]
  (ask : α → m (Except ExecutionError Bool × α))

/-- Moves to the next row of the cursors that have not been begun. -/
def nextOfWith : List α → m (Except ExecutionError Bool × Concatenation α)
  | [] => pure (.ok false, ⟨none, []⟩)
  | c :: rest => do
    match ← ask c with
    | (.error e, c') => pure (.error e, ⟨some c', rest⟩)
    | (.ok true, c') => pure (.ok true, ⟨some c', rest⟩)
    | (.ok false, _) => nextOfWith rest

/-- The cursors that are left: the one that is being read, and those behind it. -/
def left (s : Concatenation α) : List α := s.current.toList ++ s.pending

/-- Moves to the next row of all that is left. -/
def nextWith (s : Concatenation α) : m (Except ExecutionError Bool × Concatenation α) :=
  match s.current with
  | some c => nextOfWith ask (c :: s.pending)
  | none => nextOfWith ask s.pending

theorem nextWith_eq (s : Concatenation α) : nextWith ask s = nextOfWith ask s.left := by
  obtain ⟨_ | c, pending⟩ := s <;> rfl

end

theorem next_eq (s : Concatenation κ) : next s = nextOf s.left := by
  obtain ⟨_ | c, pending⟩ := s <;> rfl

theorem nextOf_eq_nextOfWith (cs : List κ) :
    nextOf cs = nextOfWith (m := Id) (fun c => pure (RowCursor.next c)) cs := by
  induction cs with
  | nil => rfl
  | cons c rest ih =>
      rw [nextOf, nextOfWith]
      rcases RowCursor.next c with ⟨_ | _ | _, c'⟩
      · rfl
      · exact ih
      · rfl

/-- Where cursors are asked plainly, it is `next` that asks them. -/
theorem next_eq_nextWith (s : Concatenation κ) :
    next s = nextWith (m := Id) (fun c => pure (RowCursor.next c)) s := by
  rw [next_eq, nextWith_eq, nextOf_eq_nextOfWith]

/-! ### The calls that are made -/

/-- Asks a cursor that carries its place, and records the call. -/
def record (u : κ × Nat) : StateM (List UnitCall) (Except ExecutionError Bool × (κ × Nat)) := do
  modify (· ++ [UnitCall.nth u 0])
  return (said u.1 0, (after u.1 1, u.2))

/-- A concatenation without the places of its cursors. -/
def plain (s : Concatenation (κ × Nat)) : Concatenation κ :=
  ⟨s.current.map Prod.fst, s.pending.map Prod.fst⟩

/-- The cursors, read one after another with all calls recorded, after `n` calls of `next`. -/
def observed (units : List κ) : Nat → Concatenation (κ × Nat) × List UnitCall
  | 0 => (ofList units.zipIdx, [])
  | n + 1 =>
    let ((_, s), calls) := (nextWith record (observed units n).1).run (observed units n).2
    (s, calls)

/-- The calls on cursors that are read one after another, made by the first `n` calls of `next`. -/
def calls (units : List κ) (n : Nat) : List UnitCall := (observed units n).2

/-- What one call of `next` does to the cursors that are left: those in front that find no row are
asked once and gone, and the first that answers anything else stays in front. -/
inductive Asked : List (κ × Nat) → List UnitCall → Except ExecutionError Bool →
    Concatenation (κ × Nat) → Prop where
  | finished : Asked [] [] (.ok false) ⟨none, []⟩
  | stays {u rest} (h : said u.1 0 ≠ .ok false) :
    Asked (u :: rest) [.nth u 0] (said u.1 0) ⟨some (after u.1 1, u.2), rest⟩
  | moves {u rest more answer s} (h : said u.1 0 = .ok false) (hrest : Asked rest more answer s) :
    Asked (u :: rest) (.nth u 0 :: more) answer s

/-- A recorded call of `next` is the plain one, and does what `Asked` says. -/
theorem nextOfWith_record (us : List (κ × Nat)) (calls : List UnitCall) :
    ∃ more answer s, (nextOfWith record us).run calls = ((answer, s), calls ++ more) ∧
      nextOf (us.map Prod.fst) = (answer, s.plain) ∧ Asked us more answer s := by
  induction us generalizing calls with
  | nil => exact ⟨[], _, _, by rw [List.append_nil]; rfl, rfl, .finished⟩
  | cons u rest ih =>
      have hfirst : (record u).run calls =
          ((said u.1 0, (after u.1 1, u.2)), calls ++ [UnitCall.nth u 0]) := rfl
      have hnext : RowCursor.next u.1 = (said u.1 0, after u.1 1) := rfl
      rw [nextOfWith, StateT.run_bind, hfirst, List.map_cons, nextOf, hnext]
      cases hsaid : said u.1 0 with
      | error e =>
          exact ⟨_, _, _, rfl, rfl, hsaid ▸ .stays (by simp [hsaid])⟩
      | ok found =>
          cases found with
          | true => exact ⟨_, _, _, rfl, rfl, hsaid ▸ .stays (by simp [hsaid])⟩
          | false =>
              obtain ⟨more, answer, s, hrun, hplain, hasked⟩ := ih (calls ++ [.nth u 0])
              refine ⟨.nth u 0 :: more, answer, s, ?_, hplain, .moves hsaid hasked⟩
              rw [List.append_assoc] at hrun
              exact hrun

/-! ### What was asked, and what is left -/

/-- These calls were made on cursors, one after another, and these are left of them: each cursor is
asked until it finds no row, and only then the next one. -/
inductive Read : List (κ × Nat) → List UnitCall → List (κ × Nat) → Prop where
  | nothing : Read [] [] []
  | within {u rest k} (h : ∀ j < k, said u.1 j ≠ .ok false) :
    Read (u :: rest) (UnitCall.firstOf u k) ((after u.1 k, u.2) :: rest)
  | behind {u rest k calls left} (h : ∀ j < k, said u.1 j ≠ .ok false)
    (hk : said u.1 k = .ok false) (hrest : Read rest calls left) :
    Read (u :: rest) (UnitCall.firstOf u (k + 1) ++ calls) left

section

variable {us left : List (κ × Nat)} {calls more : List UnitCall}
  {answer : Except ExecutionError Bool} {s : Concatenation (κ × Nat)}

theorem Read.start (us : List (κ × Nat)) : Read us [] us := by
  cases us with
  | nil => exact .nothing
  | cons u rest => exact .within (k := 0) (by simp)

theorem nth_after (u : κ × Nat) (k j : Nat) :
    UnitCall.nth (after u.1 k, u.2) j = UnitCall.nth u (k + j) := by
  rw [UnitCall.nth, UnitCall.nth, said_after, after_after]
  rfl

/-- From a cursor in front that was asked before, one call of `next` reads on, provided it does so
from the cursors behind. -/
theorem Asked.read_within {u : κ × Nat} {rest : List (κ × Nat)} {k : Nat}
    (h : ∀ j < k, said u.1 j ≠ .ok false)
    (hrest : ∀ more answer s, Asked rest more answer s → Read rest more s.left)
    (hasked : Asked ((after u.1 k, u.2) :: rest) more answer s) :
    Read (u :: rest) (UnitCall.firstOf u k ++ more) s.left := by
  cases hasked with
  | stays hsaid =>
      rw [nth_after, Nat.add_zero, ← UnitCall.firstOf_succ]
      have hleft : Concatenation.left ⟨some (after (after u.1 k) 1, u.2), rest⟩ =
          (after u.1 (k + 1), u.2) :: rest := by rw [after_after]; rfl
      rw [hleft]
      refine .within fun j hj => ?_
      rcases Nat.lt_succ_iff_lt_or_eq.mp hj with hj | rfl
      · exact h j hj
      · rwa [said_after, Nat.add_zero] at hsaid
  | moves hsaid hmore =>
      rw [said_after, Nat.add_zero] at hsaid
      rw [nth_after, Nat.add_zero, List.append_cons, ← UnitCall.firstOf_succ]
      exact .behind h hsaid (hrest _ _ _ hmore)

theorem Asked.read (h : Asked us more answer s) : Read us more s.left := by
  induction us generalizing more answer s with
  | nil => cases h; exact .nothing
  | cons u rest ih => exact Asked.read_within (k := 0) (by simp) (fun _ _ _ => ih) h

/-- One call of `next` reads on. -/
theorem Read.next (h : Read us calls left) (hasked : Asked left more answer s) :
    Read us (calls ++ more) s.left := by
  induction h with
  | nothing => cases hasked; exact .nothing
  | within h => exact Asked.read_within h (fun _ _ _ => Asked.read) hasked
  | behind h hk _ ih => rw [List.append_assoc]; exact .behind h hk (ih hasked)

/-- Calls are made on the cursors only. -/
theorem Read.exists_unit (h : Read us calls left) {x : UnitCall} (hx : x ∈ calls) :
    ∃ u ∈ us, x.unit = u.2 := by
  induction h with
  | nothing => cases hx
  | @within u rest => exact ⟨u, List.mem_cons_self, UnitCall.unit_of_mem_firstOf hx⟩
  | @behind u rest _ _ _ _ _ _ ih =>
      rcases List.mem_append.mp hx with hx | hx
      · exact ⟨u, List.mem_cons_self, UnitCall.unit_of_mem_firstOf hx⟩
      · obtain ⟨v, hv, hunit⟩ := ih hx
        exact ⟨v, List.mem_cons_of_mem u hv, hunit⟩

/-- Where nothing is left, every cursor has found no row. -/
theorem Read.all_finished (h : Read us calls []) :
    ∀ u ∈ us, ∃ y ∈ calls, y.unit = u.2 ∧ y.answer = .ok false := by
  generalize hnone : [] = left at h
  induction h with
  | nothing => simp
  | within => cases hnone
  | @behind u rest k calls left _ hk _ ih =>
      intro v hv
      rcases List.mem_cons.mp hv with rfl | hv
      · exact ⟨.nth v k, List.mem_append_left _ (UnitCall.nth_mem_firstOf v k), rfl, hk⟩
      · obtain ⟨y, hy, h⟩ := ih hnone v hv
        exact ⟨y, List.mem_append_right _ hy, h⟩

/-- A call on a cursor comes when all cursors before it have found no row, and it has not. -/
theorem Read.waits (h : Read us calls left) (hus : us.Pairwise (·.2 < ·.2))
    {before after : List UnitCall} {x : UnitCall} (hcalls : calls = before ++ x :: after) :
    (∀ u ∈ us, u.2 < x.unit → ∃ y ∈ before, y.unit = u.2 ∧ y.answer = .ok false) ∧
    ∀ y ∈ before, y.unit = x.unit → y.answer ≠ .ok false := by
  induction h generalizing before with
  | nothing => simp at hcalls
  | @within u rest k h =>
      have hx : x.unit = u.2 := UnitCall.unit_of_mem_firstOf (k := k) (by simp [hcalls])
      refine ⟨fun v hv hlt => ?_, fun y hy _ => ?_⟩
      · exact absurd (hx ▸ hlt) (not_lt_front hus hv)
      · exact UnitCall.answer_of_mem_firstOf h (by simp [hcalls, hy])
  | @behind u rest k calls left h hk hrest ih =>
      have hlater : ∀ z ∈ calls, u.2 < z.unit := fun z hz => by
        obtain ⟨v, hv, hunit⟩ := hrest.exists_unit hz
        exact hunit ▸ List.rel_of_pairwise_cons hus hv
      rcases append_eq_append_cons hcalls with ⟨after', hfirst⟩ | ⟨before', rfl, hcalls'⟩
      · have hx : x.unit = u.2 := UnitCall.unit_of_mem_firstOf (k := k + 1) (by simp [hfirst])
        refine ⟨fun v hv hlt => absurd (hx ▸ hlt) (not_lt_front hus hv), fun y hy _ => ?_⟩
        -- Before the last call on this cursor there are only those that did not end it.
        have hbefore : UnitCall.firstOf u k = before ++ (x :: after').dropLast := by
          rw [← List.dropLast_append_cons, ← hfirst, UnitCall.firstOf_succ, List.dropLast_concat]
        exact UnitCall.answer_of_mem_firstOf h (by simp [hbefore, hy])
      · obtain ⟨hall, hown⟩ := ih hus.of_cons hcalls'
        have hx : u.2 < x.unit := hlater x (by simp [hcalls'])
        refine ⟨fun v hv hlt => ?_, fun y hy hunit => ?_⟩
        · rcases List.mem_cons.mp hv with rfl | hv
          · exact ⟨.nth v k, by simp [UnitCall.nth_mem_firstOf], rfl, hk⟩
          · obtain ⟨y, hy, h⟩ := hall v hv hlt
            exact ⟨y, by simp [hy], h⟩
        · rcases List.mem_append.mp hy with hy | hy
          · have := UnitCall.unit_of_mem_firstOf hy
            omega
          · exact hown y hy hunit

theorem Read.length_left_le (h : Read us calls left) : left.length ≤ us.length := by
  induction h with
  | nothing => exact Nat.le_refl _
  | within => exact Nat.le_refl _
  | behind _ _ _ ih => exact Nat.le_succ_of_le ih

/-- How many of the calls are on the cursor at a place. -/
def askedOf (calls : List UnitCall) (place : Nat) : Nat := calls.countP (·.unit = place)

theorem askedOf_append (calls more : List UnitCall) (place : Nat) :
    askedOf (calls ++ more) place = askedOf calls place + askedOf more place :=
  List.countP_append

theorem askedOf_eq_zero {calls : List UnitCall} {place : Nat} (h : ∀ x ∈ calls, x.unit ≠ place) :
    askedOf calls place = 0 :=
  List.countP_eq_zero.mpr fun x hx => by simpa using h x hx

theorem askedOf_firstOf (u : κ × Nat) (k : Nat) : askedOf (UnitCall.firstOf u k) u.2 = k := by
  rw [askedOf, List.countP_eq_length.mpr fun x hx => by simpa using UnitCall.unit_of_mem_firstOf hx]
  simp [UnitCall.firstOf]

theorem askedOf_firstOf_of_ne {u : κ × Nat} {place : Nat} (k : Nat) (h : u.2 ≠ place) :
    askedOf (UnitCall.firstOf u k) place = 0 :=
  askedOf_eq_zero fun _ hx => UnitCall.unit_of_mem_firstOf hx ▸ h

/-- Calls on a cursor in front do not count for those behind it. -/
theorem askedOf_append_firstOf {u v : κ × Nat} {rest : List (κ × Nat)} {k : Nat}
    (hus : (u :: rest).Pairwise (·.2 < ·.2)) (hv : v ∈ rest) :
    askedOf (UnitCall.firstOf u k ++ calls) v.2 = askedOf calls v.2 := by
  have hne : u.2 ≠ v.2 := Nat.ne_of_lt (List.rel_of_pairwise_cons hus hv)
  rw [askedOf_append, askedOf_firstOf_of_ne _ hne, Nat.zero_add]

/-- The calls are, one cursor after another, the first calls on each. -/
theorem Read.calls_eq (h : Read us calls left) (hus : us.Pairwise (·.2 < ·.2)) :
    calls = us.flatMap fun u => UnitCall.firstOf u (askedOf calls u.2) := by
  induction h with
  | nothing => rfl
  | @within u rest k =>
      have hrest : rest.flatMap (fun v =>
          UnitCall.firstOf v (askedOf (UnitCall.firstOf u k) v.2)) = [] := by
        refine List.flatMap_eq_nil_iff.mpr fun v hv => ?_
        rw [askedOf_firstOf_of_ne k (Nat.ne_of_lt (List.rel_of_pairwise_cons hus hv))]
        rfl
      rw [List.flatMap_cons, askedOf_firstOf, hrest, List.append_nil]
  | @behind u rest k calls left _ _ hrest ih =>
      have hown : askedOf (UnitCall.firstOf u (k + 1) ++ calls) u.2 = k + 1 := by
        rw [askedOf_append, askedOf_firstOf, askedOf_eq_zero, Nat.add_zero]
        intro x hx
        obtain ⟨v, hv, hunit⟩ := hrest.exists_unit hx
        exact hunit ▸ Nat.ne_of_gt (List.rel_of_pairwise_cons hus hv)
      rw [List.flatMap_cons, hown,
        List.flatMap_congr fun v hv => by rw [askedOf_append_firstOf hus hv], ← ih hus.of_cons]

/-- The cursor in front of what is left has been asked as often as there are calls on it. -/
theorem Read.front (h : Read us calls left) (hus : us.Pairwise (·.2 < ·.2)) {v : κ × Nat}
    {rest : List (κ × Nat)} (hleft : left = v :: rest) :
    ∃ u ∈ us, v.2 = u.2 ∧ v.1 = after u.1 (askedOf calls u.2) := by
  induction h with
  | nothing => cases hleft
  | @within u rest k =>
      obtain ⟨rfl, -⟩ := List.cons.inj hleft
      exact ⟨u, List.mem_cons_self, rfl, by rw [askedOf_firstOf]⟩
  | @behind u rest k calls left _ _ _ ih =>
      obtain ⟨w, hw, hplace, hcursor⟩ := ih hus.of_cons hleft
      refine ⟨w, List.mem_cons_of_mem u hw, hplace, ?_⟩
      rw [askedOf_append_firstOf hus hw, hcursor]

/-! ### One call of `next` -/

/-- A call of `next` asks no more cursors than are left, and each of them once. -/
theorem Asked.length_le (h : Asked us more answer s) : more.length ≤ us.length := by
  induction h with
  | finished => exact Nat.le_refl _
  | stays => simp
  | moves _ _ ih => simpa using ih

/-- The cursor in front is asked first. -/
theorem Asked.exists_cons {u : κ × Nat} {rest : List (κ × Nat)}
    (h : Asked (u :: rest) more answer s) : ∃ x rest', more = x :: rest' ∧ x.unit = u.2 := by
  cases h with
  | stays => exact ⟨_, _, rfl, rfl⟩
  | moves => exact ⟨_, _, rfl, rfl⟩

/-- Of what it asked, a call of `next` answers with the first answer that is not that there is no
row, and such an answer comes last. -/
theorem Asked.answered (h : Asked us more answer s) :
    (∃ ended x u rest, more = ended ++ [x] ∧ (∀ y ∈ ended, y.answer = .ok false) ∧
      x.answer ≠ .ok false ∧ answer = x.answer ∧ s = ⟨some u, rest⟩ ∧ x.unit = u.2 ∧
      x.row = RowCursor.value u.1) ∨
    (∀ y ∈ more, y.answer = .ok false) ∧ answer = .ok false ∧ s = ⟨none, []⟩ := by
  induction h with
  | finished => exact .inr ⟨by simp, rfl, rfl⟩
  | @stays u rest h => exact .inl ⟨[], .nth u 0, _, rest, rfl, by simp, h, rfl, rfl, rfl, rfl⟩
  | @moves u rest more answer s h _ ih =>
      rcases ih with ⟨ended, x, v, rest, rfl, hended, hx⟩ | ⟨hmore, hs⟩
      · exact .inl ⟨.nth u 0 :: ended, x, v, rest, rfl, List.forall_mem_cons.mpr ⟨h, hended⟩, hx⟩
      · exact .inr ⟨List.forall_mem_cons.mpr ⟨h, hmore⟩, hs⟩

/-- The rows that the calls of one call of `next` have found: the row that the concatenation is on
when it answers that there is one. -/
theorem Asked.rows (h : Asked us more answer s) :
    more.filterMap UnitCall.row? = (found answer (RowCursor.value s.plain)).toList := by
  have hnone : ∀ {ended : List UnitCall}, (∀ y ∈ ended, y.answer = .ok false) →
      ended.filterMap UnitCall.row? = [] := fun hended =>
    List.filterMap_eq_nil_iff.mpr fun y hy => by rw [UnitCall.row?, hended y hy]; rfl
  rcases h.answered with ⟨ended, x, u, rest, rfl, hended, -, rfl, rfl, -, hrow⟩ | ⟨hmore, rfl, rfl⟩
  · have hx : x.row? = found x.answer (RowCursor.value (plain ⟨some u, rest⟩)) := by
      rw [UnitCall.row?, hrow]
      rfl
    rw [List.filterMap_append, hnone hended, ← hx]
    cases hx : x.row? <;> simp [hx]
  · exact hnone hmore

end

/-! ### The whole run -/

omit [RowCursor κ] in
theorem left_plain (s : Concatenation (κ × Nat)) : s.plain.left = s.left.map Prod.fst := by
  obtain ⟨_ | u, pending⟩ := s <;> rfl

variable (units : List κ) (n : Nat)

/-- What one more call of `next` does, as it is and with all calls recorded. -/
theorem observed_next : ∃ more answer, calls units (n + 1) = calls units n ++ more ∧
    RowCursor.next (observed units n).1.plain = (answer, (observed units (n + 1)).1.plain) ∧
    Asked (observed units n).1.left more answer (observed units (n + 1)).1 := by
  obtain ⟨more, answer, s, hrun, hnext, hasked⟩ :=
    nextOfWith_record (observed units n).1.left (calls units n)
  have hobserved : observed units (n + 1) = (s, calls units n ++ more) := by
    rw [observed, nextWith_eq, ← calls, hrun]
  refine ⟨more, answer, by rw [calls, hobserved], ?_, by rwa [hobserved]⟩
  change next (observed units n).1.plain = _
  rw [next_eq, left_plain, hnext, hobserved]

/-- With all calls recorded, what is left is the same. -/
theorem plain_observed : (observed units n).1.plain = after (ofList units) n := by
  induction n with
  | zero => simp [observed, plain, ofList, after]
  | succ n ih =>
      obtain ⟨more, answer, -, hnext, -⟩ := observed_next units n
      rw [after, ← ih, hnext]

/-- What one more call of `next` answers, and what it asks for it. -/
theorem exists_asked : ∃ more, calls units (n + 1) = calls units n ++ more ∧
    Asked (observed units n).1.left more (said (ofList units) n) (observed units (n + 1)).1 := by
  obtain ⟨more, answer, hcalls, hnext, hasked⟩ := observed_next units n
  refine ⟨more, hcalls, ?_⟩
  rwa [said, ← plain_observed, hnext]

theorem read_observed : Read units.zipIdx (calls units n) (observed units n).1.left := by
  induction n with
  | zero => exact Read.start _
  | succ n ih =>
      obtain ⟨more, hcalls, hasked⟩ := exists_asked units n
      rw [hcalls]
      exact ih.next hasked

/-- The rows of the whole are those that the calls on its cursors have found. -/
theorem visited_ofList : visited (ofList units) n = (calls units n).filterMap UnitCall.row? := by
  induction n with
  | zero => rfl
  | succ n ih =>
      obtain ⟨more, hcalls, hasked⟩ := exists_asked units n
      rw [visited_succ, ih, hcalls, List.filterMap_append, hasked.rows, plain_observed]

omit [RowCursor κ] in
theorem pairwise_zipIdx : units.zipIdx.Pairwise (·.2 < ·.2) := by
  rw [← List.pairwise_map, List.zipIdx_map_snd]
  exact List.pairwise_lt_range'

variable {units n}

omit [RowCursor κ] in
theorem exists_mem_zipIdx {i : Nat} (h : i < units.length) : ∃ u ∈ units.zipIdx, u.2 = i :=
  ⟨(units[i], i), List.mem_zipIdx_iff_getElem?.mpr (List.getElem?_eq_getElem h), rfl⟩

omit [RowCursor κ] in
theorem snd_lt_of_mem_zipIdx {u : κ × Nat} (h : u ∈ units.zipIdx) : u.2 < units.length :=
  (List.getElem?_eq_some_iff.mp (List.mem_zipIdx_iff_getElem?.mp h)).1

/-- What has come to its end stays there, and asks nothing. -/
theorem observed_of_finished (h : (observed units n).1 = ⟨none, []⟩) :
    said (ofList units) n = .ok false ∧ observed units (n + 1) = observed units n := by
  obtain ⟨more, hcalls, hasked⟩ := exists_asked units n
  rw [h] at hasked
  generalize hsaid : said (ofList units) n = answer at hasked
  generalize hs : (observed units (n + 1)).1 = s at hasked
  cases hasked
  exact ⟨rfl, Prod.ext (hs.trans h.symm) (by simpa [calls] using hcalls)⟩

theorem observed_of_said_false (h : said (ofList units) n = .ok false) :
    (observed units (n + 1)).1 = ⟨none, []⟩ := by
  obtain ⟨more, -, hasked⟩ := exists_asked units n
  rcases hasked.answered with ⟨ended, x, u, rest, -, -, hx, hanswer, -⟩ | ⟨-, -, hs⟩
  · exact absurd (hanswer.symm.trans h) hx
  · exact hs

theorem observed_of_ended (h : said (ofList units) n = .ok false) (d : Nat) :
    observed units (n + 1 + d) = observed units (n + 1) := by
  induction d with
  | zero => rfl
  | succ d ih => rw [← Nat.add_assoc, (observed_of_finished (ih ▸ observed_of_said_false h)).2, ih]

variable (units n)

/-- How a call of `next` on the whole comes to its answer from the calls `more` that it makes. -/
structure Answered (more : List UnitCall) : Prop where
  /-- No cursor is asked twice. -/
  bounded : more.length ≤ units.length
  /-- An answer other than that there is no row is that of the last cursor asked, and the others
  have found no row. -/
  passedOn : said (ofList units) n ≠ .ok false →
    ∃ ended x, more = ended ++ [x] ∧ (∀ y ∈ ended, y.answer = .ok false) ∧
      x.answer = said (ofList units) n
  /-- There is no row when every cursor that is asked has none and all cursors have said so. -/
  ended : said (ofList units) n = .ok false →
    (∀ y ∈ more, y.answer = .ok false) ∧
    ∀ i < units.length, ∃ y ∈ calls units (n + 1), y.unit = i ∧ y.answer = .ok false

/-- What cursors that are read one after another lose: nothing, whatever each of them does. The
whole is looked at after `n` calls of `next` on it, and behind one more. -/
structure Lossless : Prop where
  /-- With all calls recorded, the whole stands as it does without. -/
  same : (observed units n).1.plain = after (ofList units) n
  /-- The calls are, one cursor after another, the first calls on each. -/
  inTurn : calls units n =
    units.zipIdx.flatMap fun u => UnitCall.firstOf u (askedOf (calls units n) u.2)
  /-- A call on a cursor comes when all cursors before it have found no row, and it has not. -/
  waits : ∀ before x after, calls units n = before ++ x :: after →
    (∀ i < x.unit, ∃ y ∈ before, y.unit = i ∧ y.answer = .ok false) ∧
    ∀ y ∈ before, y.unit = x.unit → y.answer ≠ .ok false
  /-- One more call makes finitely many calls, and its answer is made of theirs. -/
  answered : ∃ more, calls units (n + 1) = calls units n ++ more ∧ Answered units n more
  /-- A cursor that has found a row or failed stays in front: its cells are those that can be read,
  and it is the one that is asked next. -/
  stays : said (ofList units) n ≠ .ok false →
    ∃ u ∈ units.zipIdx, (∃ x, (calls units (n + 1)).getLast? = some x ∧ x.unit = u.2) ∧
      (∀ column, RowCursor.value (after (ofList units) (n + 1)) column =
        RowCursor.value (after u.1 (askedOf (calls units (n + 1)) u.2)) column) ∧
      ∃ x rest, calls units (n + 2) = calls units (n + 1) ++ x :: rest ∧ x.unit = u.2
  /-- The rows of the whole are the rows of the cursors in order, each once. -/
  rows : visited (ofList units) n =
    units.zipIdx.flatMap fun u => visited u.1 (askedOf (calls units n) u.2)
  /-- The end is final: no row, no cell and no further call. -/
  final : said (ofList units) n = .ok false → ∀ d,
    said (ofList units) (n + d) = .ok false ∧ calls units (n + 1 + d) = calls units (n + 1) ∧
    ∀ column, RowCursor.value (after (ofList units) (n + 1 + d)) column =
      .error (.invalidState .mergedNotOnRow)

theorem exists_answered :
    ∃ more, calls units (n + 1) = calls units n ++ more ∧ Answered units n more := by
  obtain ⟨more, hcalls, hasked⟩ := exists_asked units n
  refine ⟨more, hcalls, ?_, fun hsaid => ?_, fun hsaid => ?_⟩
  · have hleft := (read_observed units n).length_left_le
    rw [List.length_zipIdx] at hleft
    exact Nat.le_trans hasked.length_le hleft
  · rcases hasked.answered with ⟨ended, x, _, _, hmore, hended, -, hx, -⟩ | ⟨-, hanswer, -⟩
    · exact ⟨ended, x, hmore, hended, hx.symm⟩
    · exact absurd hanswer hsaid
  · rcases hasked.answered with ⟨_, _, _, _, -, -, hx, hanswer, -⟩ | ⟨hmore, -, hs⟩
    · exact absurd (hanswer.symm.trans hsaid) hx
    · have hread := read_observed units (n + 1)
      rw [hs] at hread
      refine ⟨hmore, fun i hi => ?_⟩
      obtain ⟨u, hu, rfl⟩ := exists_mem_zipIdx hi
      exact hread.all_finished u hu

theorem stays_of_said (hsaid : said (ofList units) n ≠ .ok false) :
    ∃ u ∈ units.zipIdx, (∃ x, (calls units (n + 1)).getLast? = some x ∧ x.unit = u.2) ∧
      (∀ column, RowCursor.value (after (ofList units) (n + 1)) column =
        RowCursor.value (after u.1 (askedOf (calls units (n + 1)) u.2)) column) ∧
      ∃ x rest, calls units (n + 2) = calls units (n + 1) ++ x :: rest ∧ x.unit = u.2 := by
  obtain ⟨more, hcalls, hasked⟩ := exists_asked units n
  rcases hasked.answered with ⟨ended, x, u, rest, hmore, -, -, -, hs, hunit, -⟩ | ⟨-, hanswer, -⟩
  · have hread := read_observed units (n + 1)
    have hleft : (observed units (n + 1)).1.left = u :: rest := by rw [hs]; rfl
    obtain ⟨v, hv, hplace, hcursor⟩ := hread.front (pairwise_zipIdx units) hleft
    refine ⟨v, hv, ⟨x, by rw [hcalls, hmore]; simp, hunit.trans hplace⟩, fun column => ?_, ?_⟩
    · rw [← plain_observed, hs, ← hcursor]
      rfl
    · obtain ⟨more', hcalls', hasked'⟩ := exists_asked units (n + 1)
      rw [hleft] at hasked'
      obtain ⟨y, rest', rfl, hy⟩ := hasked'.exists_cons
      exact ⟨y, rest', hcalls', hy.trans hplace⟩
  · exact absurd hanswer hsaid

theorem rows_eq : visited (ofList units) n =
    units.zipIdx.flatMap fun u => visited u.1 (askedOf (calls units n) u.2) := by
  calc visited (ofList units) n
    _ = (calls units n).filterMap UnitCall.row? := visited_ofList units n
    _ = (units.zipIdx.flatMap fun u =>
          UnitCall.firstOf u (askedOf (calls units n) u.2)).filterMap UnitCall.row? := by
        rw [← (read_observed units n).calls_eq (pairwise_zipIdx units)]
    _ = _ := by
        rw [List.filterMap_flatMap]
        simp only [UnitCall.filterMap_firstOf]

/-- **Cursors that are read one after another lose no row**, whatever each of them does. -/
theorem concatenation_lossless : Lossless units n where
  same := plain_observed units n
  inTurn := (read_observed units n).calls_eq (pairwise_zipIdx units)
  waits before x after hcalls := by
    have hread := read_observed units n
    obtain ⟨hall, hown⟩ := hread.waits (pairwise_zipIdx units) hcalls
    refine ⟨fun i hi => ?_, hown⟩
    obtain ⟨v, hv, hunit⟩ := hread.exists_unit (x := x) (by simp [hcalls])
    have hlt : v.2 < units.length := snd_lt_of_mem_zipIdx hv
    have hi' : i < units.length := by omega
    obtain ⟨u, hu, rfl⟩ := exists_mem_zipIdx hi'
    exact hall u hu hi
  answered := exists_answered units n
  stays := stays_of_said units n
  rows := rows_eq units n
  final hsaid d := by
    have hended := observed_of_ended hsaid
    have hfinished := observed_of_said_false hsaid
    refine ⟨?_, by rw [calls, calls, hended], fun column => ?_⟩
    · cases d with
      | zero => exact hsaid
      | succ d =>
          have hd : (observed units (n + 1 + d)).1 = ⟨none, []⟩ := by rw [hended, hfinished]
          rw [← Nat.add_assoc, Nat.add_right_comm]
          exact (observed_of_finished hd).1
    · rw [← plain_observed, hended, hfinished]
      rfl

end Concatenation

end ScatterGather
