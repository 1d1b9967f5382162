import Mathlib.Algebra.Ring.Nat
import Mathlib.Data.List.Induction

/-!
# Runs of a partial step function

The systems of this library (`SharedWait`, `Collector`, `Workers`, `ConnectionEngine`,
`ForwardEngine`) all run by folding a step that may be impossible over a list of actions. What
holds before a run and is kept by each of its steps holds behind it: `foldlM_induction` says so
once, with the actions taken so far at hand, so that a hypothesis about the history can be used.
What the steps of a run give off, one after another, is `emitted`.
-/

namespace ScatterGather

variable {σ α β : Type} {step : σ → α → Option σ}

/-- A run over two lists of actions stops between them. -/
theorem foldlM_append_eq_some {s s'' : σ} {as bs : List α} :
    (as ++ bs).foldlM step s = some s'' ↔
      ∃ s', as.foldlM step s = some s' ∧ bs.foldlM step s' = some s'' := by
  rw [List.foldlM_append]
  exact Option.bind_eq_some_iff

/-- A run that ends with a further action. -/
theorem foldlM_concat_eq_some {s s'' : σ} {as : List α} {a : α} :
    (as ++ [a]).foldlM step s = some s'' ↔
      ∃ s', as.foldlM step s = some s' ∧ step s' a = some s'' := by
  rw [foldlM_append_eq_some]
  simp

/-- A run that begins with an action. -/
theorem foldlM_cons_eq_some {s s'' : σ} {a : α} {as : List α} :
    (a :: as).foldlM step s = some s'' ↔
      ∃ s', step s a = some s' ∧ as.foldlM step s' = some s'' := by
  rw [List.foldlM_cons]
  exact Option.bind_eq_some_iff

/-- **Induction along a run.** `P` relates the actions taken so far to the state they lead to. -/
theorem foldlM_induction {s₀ : σ} {P : List α → σ → Prop} (start : P [] s₀)
    (next : ∀ {as s a s'}, as.foldlM step s₀ = some s → P as s → step s a = some s' →
      P (as ++ [a]) s') {as : List α} {s : σ} (h : as.foldlM step s₀ = some s) : P as s := by
  induction as using List.reverseRecOn generalizing s with
  | nil =>
      obtain rfl : s₀ = s := by simpa using h
      exact start
  | append_singleton as a ih =>
      obtain ⟨s', hs', ha⟩ := foldlM_concat_eq_some.mp h
      exact next hs' (ih hs') ha

/-- What each step keeps, a run keeps. -/
theorem foldlM_invariant {s₀ : σ} {P : σ → Prop}
    (next : ∀ {s a s'}, P s → step s a = some s' → P s') (start : P s₀) {as : List α} {s : σ}
    (h : as.foldlM step s₀ = some s) : P s :=
  foldlM_induction (P := fun _ s => P s) start (fun _ hP ha => next hP ha) h

/-! ### What is numbered in the order in which it comes -/

/-- What has a number in a list that has grown has had it before, or is what has come. -/
theorem getElem?_concat_eq_some {l : List α} {x y : α} {n : Nat} (h : (l ++ [x])[n]? = some y) :
    l[n]? = some y ∨ n = l.length ∧ x = y := by
  rw [List.getElem?_append] at h
  split at h
  · exact .inl h
  · obtain ⟨hn, hx⟩ := List.getElem?_eq_some_iff.mp h
    have hn' : n = l.length := by simp at hn; omega
    exact .inr ⟨hn', by simpa using hx⟩

/-- What has a number keeps it. -/
theorem getElem?_append_of_eq_some {l l' : List α} {x : α} {n : Nat} (h : l[n]? = some x) :
    (l ++ l')[n]? = some x :=
  (List.getElem?_append_left (List.getElem?_eq_some_iff.mp h).1).trans h

/-- What is numbered through has its number at its place. -/
theorem key_eq_of_getElem? (key : α → Nat) {l : List α} {n i : Nat} {x : α}
    (h : l.map key = List.range n) (hx : l[i]? = some x) : key x = i := by
  have hi : (List.range n)[i]? = some (key x) := by rw [← h, List.getElem?_map, hx]; rfl
  obtain ⟨hlt, heq⟩ := List.getElem?_eq_some_iff.mp hi
  simpa using heq.symm

/-- What becomes of a sum when one of its parts changes. -/
theorem sum_set (f : α → Nat) {l : List α} {n : Nat} {x : α} (hx : l[n]? = some x)
    (y : α) : ((l.set n y).map f).sum + f x = (l.map f).sum + f y := by
  induction l generalizing n with
  | nil => cases hx
  | cons z l ih =>
      cases n with
      | zero =>
          cases hx
          simp only [List.set_cons_zero, List.map_cons, List.sum_cons]
          omega
      | succ n =>
          have := ih (n := n) hx
          simp only [List.set_cons_succ, List.map_cons, List.sum_cons]
          omega

/-! ### What a run gives off -/

/-- What is read off actions, with one action more. -/
theorem filterMap_concat (f : α → Option β) (as : List α) (a : α) :
    (as ++ [a]).filterMap f = as.filterMap f ++ (f a).toList := by
  rw [List.filterMap_append]
  cases h : f a <;> simp [h]

/-- What the steps of a run give off, in their order. -/
def emitted (step : σ → α → Option σ) (out : σ → α → Option β) (s : σ) : List α → List β
  | [] => []
  | a :: as => (out s a).toList ++ ((step s a).map (emitted step out · as)).getD []

variable {out : σ → α → Option β}

/-- What a run gives off that stops in between. -/
theorem emitted_append {s s' : σ} {as : List α} (h : as.foldlM step s = some s') (bs : List α) :
    emitted step out s (as ++ bs) = emitted step out s as ++ emitted step out s' bs := by
  induction as generalizing s with
  | nil =>
      obtain rfl : s = s' := by simpa using h
      rfl
  | cons a as ih =>
      obtain ⟨t, ht, h'⟩ := foldlM_cons_eq_some.mp h
      simp [emitted, ht, ih h']

/-- What a run gives off with one action more. -/
theorem emitted_concat {s s' : σ} {as : List α} (h : as.foldlM step s = some s') (a : α) :
    emitted step out s (as ++ [a]) = emitted step out s as ++ (out s' a).toList := by
  rw [emitted_append h]
  cases ha : step s' a <;> simp [emitted, ha]

end ScatterGather
