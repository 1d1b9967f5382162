import Mathlib.Data.List.Perm.Subperm
import ScatterGather.Proofs.Worker.Permits

/-!
# A pool bounds its tasks and loses no permit

The main statement is `permits_bound_tasks`: whatever has been done to the tasks of a pool, and
however they have ended, no more of them run than the pool has permits, and the permits that are
free make up the pool together with those of the tasks that have not ended (`Workers.Bounded`). What
a task does by itself it does on a permit (`WorkerAction.body?`).

Permits are counted in the line of the pool, where each holder stands once, and tasks by their
numbers. `Workers.Sound` ties the two: who holds a permit is a task that has not ended, and who runs
holds one.
-/

namespace ScatterGather

variable {β : Type}

/-- The task whose own work an action is: it begins, goes on or ends. -/
def WorkerAction.body? : WorkerAction β → Option Nat
  | .start n | .work n _ | .finish n _ => some n
  | .spawn _ | .request _ | .abort _ | .reap _ => none

/-- A task that holds or wants a permit has not ended. -/
theorem WorkerStage.hasEnded_of_wants {stage : WorkerStage} (h : stage.wants = true) :
    stage.hasEnded = false := by
  cases stage with
  | fresh | ended _ => cases h
  | queued | running => rfl

namespace Workers

/-- The numbers of the tasks of which something is true. -/
def numbersOf (w : Workers β) (p : Worker β → Bool) : List Nat :=
  (List.range w.tasks.length).filter fun n => w.tasks[n]?.any p

/-- The tasks that have begun and not ended. -/
def begun (w : Workers β) : List Nat := w.numbersOf (·.stage = .running)

/-- The tasks that have not ended. -/
def alive (w : Workers β) : List Nat := w.numbersOf (!·.stage.hasEnded)

/-- What is true at any time of the tasks of a pool of so many permits. -/
structure Bounded (size : Nat) (w : Workers β) : Prop where
  size_eq : w.pool.size = size
  /-- No more tasks than there are permits have begun and not ended. -/
  begun_le : w.begun.length ≤ size
  /-- No permit is lost: those that are free and those of tasks that have not ended are all. -/
  balance : w.pool.free + (w.alive.filter w.pool.holds).length = size
  /-- A task that has begun and not ended has a permit. -/
  onPermit : ∀ n ∈ w.begun, w.pool.holds n = true
  /-- When all tasks have ended all permits are free. -/
  idle : w.alive = [] → w.pool.free = size

variable {w w' : Workers β} {a : WorkerAction β} {n size : Nat}

/-! ### Tasks by their numbers -/

theorem nodup_numbersOf (w : Workers β) (p : Worker β → Bool) : (w.numbersOf p).Nodup :=
  List.nodup_range.filter _

theorem mem_numbersOf {p : Worker β → Bool} :
    n ∈ w.numbersOf p ↔ ∃ t, w.tasks[n]? = some t ∧ p t = true := by
  simp only [numbersOf, List.mem_filter, List.mem_range, Option.any_eq_true]
  constructor
  · rintro ⟨-, t, ht, hp⟩
    exact ⟨t, ht, hp⟩
  · rintro ⟨t, ht, hp⟩
    exact ⟨(List.getElem?_eq_some_iff.mp ht).1, t, ht, hp⟩

theorem mem_begun : n ∈ w.begun ↔ ∃ t, w.tasks[n]? = some t ∧ t.stage = .running := by
  simp [begun, mem_numbersOf]

theorem mem_alive : n ∈ w.alive ↔ ∃ t, w.tasks[n]? = some t ∧ t.stage.hasEnded = false := by
  simp [alive, mem_numbersOf]

/-! ### Holders -/

namespace Sound

theorem nodup_holders (h : w.Sound) : w.pool.holders.Nodup := (List.nodup_append.mp h.nodup).1

/-- Who holds a permit is a task that has not ended. -/
theorem holder_alive (h : w.Sound) (hn : n ∈ w.pool.holders) : n ∈ w.alive := by
  obtain ⟨t, ht, hwants⟩ := (h.wants n).mp (Pool.mem_wanting_of_holds hn)
  exact mem_alive.mpr ⟨t, ht, WorkerStage.hasEnded_of_wants hwants⟩

/-- Who runs holds a permit. -/
theorem begun_subset (h : w.Sound) : w.begun ⊆ w.pool.holders := fun n hn => by
  obtain ⟨t, ht, hs⟩ := mem_begun.mp hn
  exact h.runs n t ht hs

/-- The tasks that have not ended and hold a permit are the holders of the pool. -/
theorem perm_holders (h : w.Sound) : (w.alive.filter w.pool.holds).Perm w.pool.holders := by
  refine (List.perm_ext_iff_of_nodup ((nodup_numbersOf ..).filter _) h.nodup_holders).mpr ?_
  intro n
  rw [List.mem_filter, Pool.holds, List.contains_iff_mem]
  exact ⟨fun hn => hn.2, fun hn => ⟨h.holder_alive hn, hn⟩⟩

/-- **Tasks that stand in line keep the bound of their pool.** -/
theorem bounded (h : w.Sound) (hsize : w.pool.size = size) : w.Bounded size := by
  have hbalance : w.pool.free + (w.alive.filter w.pool.holds).length = size := by
    rw [h.perm_holders.length_eq, h.pool.balance, hsize]
  refine ⟨hsize, ?_, hbalance, fun n hn => ?_, fun hidle => ?_⟩
  · have hle : w.begun.length ≤ w.pool.holders.length :=
      (List.subperm_of_subset (nodup_numbersOf ..) h.begun_subset).length_le
    have hpool := h.pool.balance
    omega
  · simpa [Pool.holds] using h.begun_subset hn
  · simpa [hidle] using hbalance

/-- What a task does by itself it does on a permit. -/
theorem holds_of_body (h : w.Sound) (hs : w.step a = some w') (ha : a.body? = some n) :
    w.pool.holds n = true := by
  suffices hmem : n ∈ w.pool.holders by simpa [Pool.holds] using hmem
  cases moves_of_step hs with
  | spawned heq _ | ignored heq _ =>
      subst heq
      cases ha
  | @task m t t' ht hm _ =>
      cases hm with
      | started _ _ hp =>
          cases ha
          exact hp
      | worked hstage _ | finished hstage _ =>
          cases ha
          exact h.runs _ _ ht hstage
      | requested | aborted | reaped => cases ha

end Sound

/-- **A pool bounds its tasks and loses no permit**, whatever is done to the tasks and however they
end; and no task does anything of its own without a permit. -/
theorem permits_bound_tasks {p : Pool} (hp : Pool.ofSize? size = some p)
    {actions : List (WorkerAction β)} (h : (ofPool p).run actions = some w) :
    w.Bounded (max size 1) ∧
      ∀ before a after u n, actions = before ++ a :: after → (ofPool p).run before = some u →
        a.body? = some n → u.pool.holds n = true := by
  obtain ⟨-, rfl⟩ := Pool.ofSize?_eq_some_iff.mp hp
  have hstart : (ofPool (Pool.ofSize size) : Workers β).Sound :=
    sound_ofPool (Pool.sound_ofSize size) rfl
  obtain ⟨hw, hsize⟩ := hstart.run h
  refine ⟨hw.bounded hsize, ?_⟩
  rintro before a after u n rfl hu ha
  obtain ⟨u₁, hu₁, hrest⟩ := foldlM_append_eq_some.mp h
  obtain rfl := Option.some.inj (hu.symm.trans hu₁)
  obtain ⟨u', hu', -⟩ := foldlM_cons_eq_some.mp hrest
  exact (hstart.run hu).1.holds_of_body hu' ha

/-- One permit that is handed on: a task runs on it and panics, the next one in line is told to stop
before it has noticed that it holds the permit, and the third one begins. -/
def handedOn : List (WorkerAction Unit) :=
  [.spawn (), .spawn (), .spawn (), .request 0, .request 1, .request 2, .start 0, .work 0 (),
    .finish 0 (.panicked "boom"), .abort 1, .reap 1, .start 2]

/-- The permit is neither lost nor used twice while it is handed on. -/
theorem permits_bound_tasks_handedOn : ∃ p w, Pool.ofSize? 0 = some p ∧
    (ofPool p).run handedOn = some w ∧ w.Bounded 1 ∧ w.begun = [2] ∧ w.pool.free = 0 := by
  have hpool : Pool.ofSize? 0 = some (Pool.ofSize 0) := rfl
  have hrun : ∃ w, (ofPool (Pool.ofSize 0)).run handedOn = some w ∧ w.begun = [2] ∧
      w.pool.free = 0 := ⟨_, rfl, rfl, rfl⟩
  obtain ⟨w, hw, hbegun, hfree⟩ := hrun
  exact ⟨Pool.ofSize 0, w, hpool, hw, (permits_bound_tasks hpool hw).1, hbegun, hfree⟩

end Workers

end ScatterGather
