import Mathlib.Data.List.Forall2

/-!
# The first failure decides

A list whose elements are treated one after another, each of which may fail, fails as the first of
its elements that does (`mapM_eq_error`), and succeeds when all of them do (`mapM_eq_ok`). Two ways
of treating the elements that come out alike for each come out alike for the list (`mapM_alike`).
-/

namespace ScatterGather

variable {α β ε : Type} {f f' : α → Except ε β}

/-- A list succeeds when its first element and the others do. -/
theorem mapM_cons_eq_ok {x : α} {l : List α} {ys : List β} :
    (x :: l).mapM f = .ok ys ↔ ∃ y ys', f x = .ok y ∧ l.mapM f = .ok ys' ∧ ys = y :: ys' := by
  rw [List.mapM_cons]
  cases f x <;> cases l.mapM f <;> simp [bind, Except.bind, pure, Except.pure, eq_comm]

/-- A list fails with its first element, or as the others do. -/
theorem mapM_cons_eq_error {x : α} {l : List α} {e : ε} :
    (x :: l).mapM f = .error e ↔ f x = .error e ∨ (∃ y, f x = .ok y) ∧ l.mapM f = .error e := by
  rw [List.mapM_cons]
  cases f x <;> cases l.mapM f <;> simp [bind, Except.bind, pure, Except.pure]

/-- All elements succeed. -/
theorem mapM_eq_ok {l : List α} {ys : List β} : l.mapM f = .ok ys ↔ l.map f = ys.map .ok := by
  induction l generalizing ys with
  | nil => cases ys <;> simp [pure, Except.pure]
  | cons x l ih =>
      rw [mapM_cons_eq_ok, List.map_cons]
      constructor
      · rintro ⟨y, ys', hx, hl, rfl⟩
        rw [hx, ih.mp hl, List.map_cons]
      · intro h
        cases ys with
        | nil => simp at h
        | cons y ys' =>
            obtain ⟨hx, hl⟩ := List.cons.inj h
            exact ⟨y, ys', hx, ih.mpr hl, rfl⟩

/-- An element fails, and all before it succeed. -/
theorem mapM_eq_error {l : List α} {e : ε} :
    l.mapM f = .error e ↔
      ∃ (i : Nat) (x : α), l[i]? = some x ∧ f x = .error e ∧
        ∀ (j : Nat) (y : α), j < i → l[j]? = some y → ∃ z, f y = .ok z := by
  induction l with
  | nil => simp [pure, Except.pure]
  | cons x l ih =>
      rw [mapM_cons_eq_error, ih]
      constructor
      · rintro (hx | ⟨⟨z, hz⟩, i, y, hy, he, hbefore⟩)
        · exact ⟨0, x, rfl, hx, nofun⟩
        · refine ⟨i + 1, y, hy, he, ?_⟩
          intro j y' hj hy'
          cases j with
          | zero =>
              cases hy'
              exact ⟨z, hz⟩
          | succ j => exact hbefore j y' (Nat.lt_of_succ_lt_succ hj) hy'
      · rintro ⟨i, y, hy, he, hbefore⟩
        cases i with
        | zero =>
            cases hy
            exact .inl he
        | succ i =>
            exact .inr ⟨hbefore 0 x (Nat.succ_pos i) rfl, i, y, hy, he, fun j y' hj hy' =>
              hbefore (j + 1) y' (Nat.succ_lt_succ hj) hy'⟩

/-- Two results are the same failure, or are values that are related. -/
inductive ComeOutAlike (R : α → β → Prop) : Except ε α → Except ε β → Prop where
  | failed {e} : ComeOutAlike R (.error e) (.error e)
  | given {x y} (h : R x y) : ComeOutAlike R (.ok x) (.ok y)

/-- Elements that come out alike make lists that do. -/
theorem mapM_alike {R : β → β → Prop} {l : List α}
    (h : ∀ x ∈ l, ComeOutAlike R (f x) (f' x)) :
    ComeOutAlike (List.Forall₂ R) (l.mapM f) (l.mapM f') := by
  induction l with
  | nil => exact .given .nil
  | cons x l ih =>
      obtain ⟨hx, hl⟩ := List.forall_mem_cons.mp h
      rw [List.mapM_cons, List.mapM_cons]
      generalize f x = r, f' x = r' at hx
      cases hx with
      | failed => exact .failed
      | given hy =>
          have hrest := ih hl
          generalize l.mapM f = rs, l.mapM f' = rs' at hrest
          cases hrest with
          | failed => exact .failed
          | given hys => exact .given (.cons hy hys)

end ScatterGather
