import Mathlib.Algebra.BigOperators.Group.List.Basic
import Mathlib.Algebra.Ring.Nat
import ScatterGather.Merge.Strategy

/-!
# The counts of a statement are clamped once

The counts of the units are added up one after another, and every addition may stop at the greatest
number of 64 bits. Still the result is that of adding without bound and stopping once, at the end:
clamping takes the sum of naturals to `addSaturating` (`clamp_add`), so counts of 64 bits are added
as if they were their clamped naturals. From this follow the total of a list
(`UpdateSummary.affectedRows_merge`), that its order does not matter, and that a list can be taken
in parts (`UpdateSummary.merge_append`, `UpdateSummary.merge_flatten`). The main statement,
`counts_merged_exactly`, says this of the counts and of the statement that reports them.
-/

namespace ScatterGather

/-! ### Clamping -/

/-- A number as a count of 64 bits, which is the greatest one where the number is beyond it. -/
def clamp (n : Nat) : UInt64 := UInt64.ofNat (min n (UInt64.size - 1))

theorem toNat_clamp (n : Nat) : (clamp n).toNat = min n (UInt64.size - 1) := by
  have hlt : min n (UInt64.size - 1) < UInt64.size :=
    Nat.lt_of_le_of_lt (Nat.min_le_right _ _) (by decide)
  exact UInt64.toNat_ofNat_of_lt hlt

/-- A count of 64 bits is not clamped. -/
@[simp] theorem clamp_toNat (a : UInt64) : clamp a.toNat = a := by
  apply UInt64.toNat_inj.mp
  have := a.toNat_lt_size
  rw [toNat_clamp]
  omega

/-- Adding what is clamped already is clamping the sum. -/
theorem clamp_add (m n : Nat) : addSaturating (clamp m) (clamp n) = clamp (m + n) := by
  apply UInt64.toNat_inj.mp
  rw [addSaturating, ← clamp, toNat_clamp, toNat_clamp, toNat_clamp, toNat_clamp]
  omega

theorem toNat_addSaturating (a b : UInt64) :
    (addSaturating a b).toNat = min (a.toNat + b.toNat) (UInt64.size - 1) :=
  toNat_clamp _

theorem addSaturating_clamp (a : UInt64) (n : Nat) :
    addSaturating a (clamp n) = clamp (a.toNat + n) := by
  rw [← clamp_add, clamp_toNat]

theorem addSaturating_comm (a b : UInt64) : addSaturating a b = addSaturating b a := by
  rw [addSaturating, addSaturating, Nat.add_comm]

@[simp] theorem addSaturating_zero (a : UInt64) : addSaturating a 0 = a := clamp_toNat a

@[simp] theorem zero_addSaturating (a : UInt64) : addSaturating 0 a = a := by
  rw [addSaturating_comm, addSaturating_zero]

theorem addSaturating_assoc (a b c : UInt64) :
    addSaturating (addSaturating a b) c = addSaturating a (addSaturating b c) := by
  apply UInt64.toNat_inj.mp
  simp only [toNat_addSaturating]
  omega

namespace UpdateSummary

/-! ### Two parts of a statement -/

@[simp] theorem zero_add (a : UpdateSummary) : zero.add a = a := by
  rcases a with ⟨rows, id⟩
  simp [add, zero]

@[simp] theorem add_zero (a : UpdateSummary) : a.add zero = a := by
  rcases a with ⟨rows, id⟩
  by_cases h : id = 0 <;> simp [add, zero, h]

theorem add_assoc (a b c : UpdateSummary) : (a.add b).add c = a.add (b.add c) := by
  simp only [add, addSaturating_assoc, mk.injEq, true_and]
  split <;> simp_all

/-! ### The list of all units -/

variable {units units' xs ys : List UpdateOutcome}

/-- The affected rows of all units, added up without bound. -/
def total (units : List UpdateOutcome) : Nat := (units.map (·.affectedRows.toNat)).sum

theorem total_cons (u : UpdateOutcome) (units : List UpdateOutcome) :
    total (u :: units) = u.affectedRows.toNat + total units := List.sum_cons

/-- The first generated id that is not zero, or zero. -/
def firstId (units : List UpdateOutcome) : UInt64 :=
  ((units.map (·.lastInsertId)).find? (· ≠ 0)).getD 0

/-- What is added to a start is added up by itself first. -/
theorem foldl_add (a : UpdateSummary) (units : List UpdateOutcome) :
    units.foldl (fun s u => s.add (ofOutcome u)) a = a.add (merge units) := by
  induction units generalizing a with
  | nil => exact (add_zero a).symm
  | cons u units ih => rw [merge, List.foldl_cons, List.foldl_cons, ih, ih, zero_add, add_assoc]

theorem merge_cons (u : UpdateOutcome) (units : List UpdateOutcome) :
    merge (u :: units) = (ofOutcome u).add (merge units) := by
  rw [← foldl_add, merge, List.foldl_cons, zero_add]

/-- The parts of a list are merged one by one. -/
theorem merge_append (xs ys : List UpdateOutcome) :
    merge (xs ++ ys) = (merge xs).add (merge ys) := by
  rw [← foldl_add, merge, List.foldl_append, ← merge]

/-- All affected rows are added up without bound, and clamped once. -/
theorem affectedRows_merge (units : List UpdateOutcome) :
    (merge units).affectedRows = clamp (total units) := by
  induction units with
  | nil => rfl
  | cons u units ih =>
      calc (merge (u :: units)).affectedRows
        _ = addSaturating u.affectedRows (merge units).affectedRows := by rw [merge_cons]; rfl
        _ = clamp (u.affectedRows.toNat + total units) := by rw [ih, addSaturating_clamp]
        _ = clamp (total (u :: units)) := by rw [total_cons]

theorem lastInsertId_merge (units : List UpdateOutcome) :
    (merge units).lastInsertId = firstId units := by
  induction units with
  | nil => rfl
  | cons u units ih =>
      rw [merge_cons, add, ih, ofOutcome]
      by_cases hu : u.lastInsertId = 0 <;> simp [hu, firstId]

theorem total_perm (h : units.Perm units') : total units = total units' := (h.map _).sum_eq

/-- The counts that a group reports as if it were one unit. -/
def toOutcome (s : UpdateSummary) : UpdateOutcome := ⟨s.affectedRows, s.lastInsertId⟩

/-- Merging groups, and then what the groups gave, is merging all there is. -/
theorem merge_flatten (groups : List (List UpdateOutcome)) :
    merge (groups.map fun g => (merge g).toOutcome) = merge groups.flatten := by
  induction groups with
  | nil => rfl
  | cons g groups ih => rw [List.map_cons, merge_cons, ih, List.flatten_cons, merge_append]; rfl

/-! ### The whole statement -/

/-- The counts of a list of units are the exact ones, as far as 64 bits go. -/
structure MergesExactly (units : List UpdateOutcome) : Prop where
  /-- The affected rows are added up without bound and clamped once. -/
  rows : (merge units).affectedRows.toNat = min (total units) (2 ^ 64 - 1)
  /-- The generated id is the first that is not zero, or zero where all are. -/
  generated : (merge units).lastInsertId = firstId units
  /-- The order of the units makes no difference to the affected rows. -/
  anyOrder : ∀ units', units'.Perm units → (merge units').affectedRows = (merge units).affectedRows
  /-- The counts of two parts are put together by adding the rows, clamped, and by taking the first
  id that is not zero. -/
  parts : ∀ xs ys, units = xs ++ ys →
    (merge units).affectedRows.toNat =
      min ((merge xs).affectedRows.toNat + (merge ys).affectedRows.toNat) (2 ^ 64 - 1) ∧
    (merge units).lastInsertId =
      if (merge xs).lastInsertId = 0 then (merge ys).lastInsertId else (merge xs).lastInsertId

theorem mergesExactly (units : List UpdateOutcome) : MergesExactly units where
  rows := by rw [affectedRows_merge, toNat_clamp]; rfl
  generated := lastInsertId_merge units
  anyOrder units' h := by rw [affectedRows_merge, affectedRows_merge, total_perm h]
  parts := by
    rintro xs ys rfl
    rw [merge_append]
    exact ⟨toNat_addSaturating _ _, rfl⟩

end UpdateSummary

/-- Statements of the kind have the counts of all their units added up. -/
def StatementKind.AddsUp (kind : StatementKind) : Prop := kind = .dml ∨ kind = .dql ∨ kind = .dal

theorem StatementKind.summarise_of_addsUp {kind : StatementKind} (h : kind.AddsUp)
    (units : List UpdateOutcome) : kind.summarise units = UpdateSummary.merge units := by
  rcases h with rfl | rfl | rfl <;> rfl

/-- A statement whose units gave the counts says that `n` rows are affected. -/
def MergeStrategy.Reports (strategy : MergeStrategy) (statement : Statement)
    (units : List UpdateOutcome) (n : UInt64) : Prop :=
  ∃ result, Response.merge strategy statement (.update units) = .ok result ∧
    result.affectedRows? = some n

theorem MergeStrategy.reports_merge (strategy : MergeStrategy) {statement : Statement}
    (hkind : statement.kind.AddsUp) (units : List UpdateOutcome) :
    strategy.Reports statement units (UpdateSummary.merge units).affectedRows := by
  refine ⟨_, rfl, ?_⟩
  rw [StatementKind.summarise_of_addsUp hkind, LogicalResult.affectedRows?]

/-- **Counts are merged exactly.** The counts of every list of units are the unbounded total,
clamped once, and the first generated id that is not zero; they are the same in every order and can
be put together from parts. So a statement that has its counts added up reports the clamped total
over all its units, in whatever order they completed and however they are grouped, where the counts
of a group may also have been merged by themselves before. -/
theorem counts_merged_exactly :
    (∀ units, UpdateSummary.MergesExactly units) ∧
    ∀ (strategy : MergeStrategy) (statement : Statement) (units : List UpdateOutcome)
      (groups : List (List UpdateOutcome)),
      statement.kind.AddsUp → groups.flatten.Perm units →
      ∃ n : UInt64, n.toNat = min (UpdateSummary.total units) (2 ^ 64 - 1) ∧
        strategy.Reports statement groups.flatten n ∧
        strategy.Reports statement (groups.map fun g => (UpdateSummary.merge g).toOutcome) n := by
  refine ⟨UpdateSummary.mergesExactly, fun strategy statement units groups hkind hperm => ?_⟩
  have hrows : (UpdateSummary.merge groups.flatten).affectedRows =
      clamp (UpdateSummary.total units) := by
    rw [UpdateSummary.affectedRows_merge, UpdateSummary.total_perm hperm]
  refine ⟨clamp (UpdateSummary.total units), toNat_clamp _, ?_, ?_⟩
  · rw [← hrows]
    exact strategy.reports_merge hkind _
  · rw [← hrows, ← UpdateSummary.merge_flatten]
    exact strategy.reports_merge hkind _

/-- Two units that change more rows than can be counted: completed in the other order, and each in
a group of its own, they make a statement report the greatest count. -/
theorem counts_merged_exactly_beyond :
    MergeStrategy.refuse.Reports (.ofKind .dml) [⟨5, 3⟩, ⟨18446744073709551614, 0⟩]
      18446744073709551615 := by
  obtain ⟨n, hn, hflat, -⟩ := counts_merged_exactly.2 .refuse (.ofKind .dml)
    [⟨18446744073709551614, 0⟩, ⟨5, 3⟩] [[⟨5, 3⟩], [⟨18446744073709551614, 0⟩]] (.inl rfl)
    (by decide)
  have hmax : n = 18446744073709551615 := UInt64.toNat_inj.mp hn
  exact hmax ▸ hflat

end ScatterGather
