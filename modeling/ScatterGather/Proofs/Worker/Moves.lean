import Mathlib.Data.List.Nodup
import ScatterGather.Proofs.Run
import ScatterGather.Worker.Task

/-!
# What can happen to the tasks of a pool

An action on `Workers` spawns a task or moves one task, and changes the pool only when that task
asks for a permit or ends (`Workers.Moves`). Everything that is proved about tasks goes through
`Workers.moves_of_step` and never opens the step again.
-/

namespace ScatterGather

variable {β : Type}

/-- The next move of a task: the action, and the task behind it. -/
inductive Worker.Moves (p : Pool) (n : Nat) (t : Worker β) : WorkerAction β → Worker β → Prop where
  | requested (hs : t.stage = .fresh) (ha : t.aborting = false) :
    Moves p n t (.request n) { t with stage := .queued }
  | started (hs : t.stage = .queued) (ha : t.aborting = false) (hp : n ∈ p.holders) :
    Moves p n t (.start n) { t with stage := .running }
  | worked {body} (hs : t.stage = .running) (ha : t.aborting = false) :
    Moves p n t (.work n body) { t with body }
  | finished {how} (hs : t.stage = .running) (ha : t.aborting = false) :
    Moves p n t (.finish n how) { t with stage := .ended how }
  | aborted (he : t.stage.hasEnded = false) : Moves p n t (.abort n) { t with aborting := true }
  | reaped (he : t.stage.hasEnded = false) (ha : t.aborting = true) :
    Moves p n t (.reap n) { t with stage := .ended .aborted }

/-- What an action does to the pool. -/
def WorkerAction.pool (p : Pool) : WorkerAction β → Pool
  | .request n => p.request n
  | .finish n _ | .reap n => p.release n
  | .spawn _ | .start _ | .work _ _ | .abort _ => p

/-- The task that an action moves. -/
def WorkerAction.task? : WorkerAction β → Option Nat
  | .spawn _ => none
  | .request n | .start n | .work n _ | .finish n _ | .abort n | .reap n => some n

namespace Workers

/-- What an action does to a pool and its tasks. -/
inductive Moves (w : Workers β) (a : WorkerAction β) (w' : Workers β) : Prop where
  | spawned {body} (ha : a = .spawn body) (hw : w' = w.spawn body)
  | task {n t t'} (ht : w.tasks[n]? = some t) (hm : t.Moves w.pool n a t')
    (hw : w' = ⟨a.pool w.pool, w.tasks.set n t'⟩)
  /-- A task that has ended cannot be told to stop. -/
  | ignored {n} (ha : a = .abort n) (hw : w' = w)

variable {w w' : Workers β} {a : WorkerAction β} {n : Nat} {t : Worker β}

/-- A task that can go on. -/
theorem at?_eq_some {stage : WorkerStage} :
    w.at? n stage = some t ↔
      w.tasks[n]? = some t ∧ t.stage = stage ∧ t.aborting = false := by
  simp only [at?, Option.bind_eq_bind, Option.bind_eq_some_iff]
  constructor
  · rintro ⟨t', ht, h⟩
    split at h
    · next hc =>
        cases h
        exact ⟨ht, hc.1, by simpa using hc.2⟩
    · cases h
  · rintro ⟨ht, hs, ha⟩
    exact ⟨t, ht, by simp [hs, ha]⟩

/-- Changing a task puts it in its place. -/
theorem modify_eq (ht : w.tasks[n]? = some t) (f : Worker β → Worker β) :
    w.modify n f = ⟨w.pool, w.tasks.set n (f t)⟩ := by
  simp [modify, List.modify_eq_set_getElem?, ht]

/-- **Every step of a pool and its tasks is one of their moves.** -/
theorem moves_of_step (h : w.step a = some w') : w.Moves a w' := by
  cases a with
  | spawn body =>
      cases h
      exact .spawned rfl rfl
  | request n =>
      obtain ⟨t, ht, h⟩ := Option.bind_eq_some_iff.mp h
      obtain ⟨ht, hs, ha⟩ := at?_eq_some.mp ht
      cases h
      exact .task ht (.requested hs ha) (by rw [setStage, modify_eq ht]; rfl)
  | start n =>
      obtain ⟨t, ht, h⟩ := Option.bind_eq_some_iff.mp h
      obtain ⟨ht, hs, ha⟩ := at?_eq_some.mp ht
      split at h
      · next hp =>
          cases h
          exact .task ht (.started hs ha (by simpa [Pool.holds] using hp))
            (by rw [setStage, modify_eq ht]; rfl)
      · cases h
  | work n body =>
      obtain ⟨t, ht, h⟩ := Option.bind_eq_some_iff.mp h
      obtain ⟨ht, hs, ha⟩ := at?_eq_some.mp ht
      cases h
      exact .task ht (.worked hs ha) (by rw [modify_eq ht]; rfl)
  | finish n how =>
      obtain ⟨t, ht, h⟩ := Option.bind_eq_some_iff.mp h
      obtain ⟨ht, hs, ha⟩ := at?_eq_some.mp ht
      cases h
      exact .task ht (.finished hs ha) (by rw [setStage, modify_eq ht]; rfl)
  | abort n =>
      cases h
      cases ht : w.tasks[n]? with
      | none => exact .ignored rfl (by simp [abort, modify, List.modify_eq_set_getElem?, ht])
      | some t =>
          cases he : t.stage.hasEnded with
          | false => exact .task ht (.aborted he) (by rw [abort, modify_eq ht]; simp [he]; rfl)
          | true =>
              refine .ignored rfl ?_
              obtain ⟨hn, rfl⟩ := List.getElem?_eq_some_iff.mp ht
              rw [abort, modify_eq ht, if_pos he, List.set_getElem_self]
  | reap n =>
      obtain ⟨t, ht, h⟩ := Option.bind_eq_some_iff.mp h
      split at h
      · next hc =>
          cases h
          exact .task ht (.reaped (by simpa using hc.2) hc.1)
            (by rw [setStage, modify_eq ht]; rfl)
      · cases h

/-! ### What becomes of one task -/

/-- A task that an action does not move stays as it is. -/
theorem Moves.task_kept (h : w.Moves a w') (ht : w.tasks[n]? = some t) (hn : a.task? ≠ some n) :
    w'.tasks[n]? = some t := by
  cases h with
  | spawned ha hw => exact hw ▸ getElem?_append_of_eq_some ht
  | ignored ha hw => exact hw ▸ ht
  | @task m u u' hu hm hw =>
      have hmn : m ≠ n := by
        rintro rfl
        cases hm <;> exact hn rfl
      subst hw
      exact (List.getElem?_set_ne hmn).trans ht

/-- A task that no action of a run moves stays as it is. -/
theorem task_kept_of_run {actions : List (WorkerAction β)} (h : w.run actions = some w')
    (ht : w.tasks[n]? = some t) (hn : ∀ a ∈ actions, a.task? ≠ some n) :
    w'.tasks[n]? = some t := by
  induction actions generalizing w with
  | nil =>
      cases h
      exact ht
  | cons a actions ih =>
      obtain ⟨w₁, hw₁, h⟩ := foldlM_cons_eq_some.mp h
      obtain ⟨ha, hn⟩ := List.forall_mem_cons.mp hn
      exact ih h ((moves_of_step hw₁).task_kept ht ha) hn

/-- A task moves by the action that moves it, unless it is one that has ended and is told to
stop. -/
theorem Moves.task_moves (h : w.Moves a w') (ht : w.tasks[n]? = some t) (ha : a.task? = some n)
    (hne : a ≠ .abort n) :
    ∃ t', w'.tasks = w.tasks.set n t' ∧ t.Moves w.pool n a t' := by
  cases h with
  | spawned heq _ => cases heq ▸ ha
  | ignored heq _ =>
      subst heq
      cases ha
      exact absurd rfl hne
  | @task m u u' hu hm hw =>
      obtain rfl : m = n := by cases hm <;> exact Option.some.inj ha
      obtain rfl := Option.some.inj (hu.symm.trans ht)
      subst hw
      exact ⟨u', rfl, hm⟩

/-- Only spawning adds tasks. -/
theorem Moves.length_eq (h : w.Moves a w') (hs : ∀ body, a ≠ .spawn body) :
    w'.tasks.length = w.tasks.length := by
  cases h with
  | @spawned body ha _ => exact absurd ha (hs body)
  | ignored _ hw => rw [hw]
  | task _ _ hw => rw [hw, List.length_set]

/-- Only spawning adds tasks, also along a run. -/
theorem length_of_run {actions : List (WorkerAction β)} (h : w.run actions = some w')
    (hs : ∀ a ∈ actions, ∀ body, a ≠ .spawn body) : w'.tasks.length = w.tasks.length := by
  induction actions generalizing w with
  | nil =>
      cases h
      rfl
  | cons a actions ih =>
      obtain ⟨w₁, hw₁, h⟩ := foldlM_cons_eq_some.mp h
      obtain ⟨ha, hs⟩ := List.forall_mem_cons.mp hs
      exact (ih h hs).trans ((moves_of_step hw₁).length_eq ha)

/-- A run of one action. -/
theorem run_singleton : w.run [a] = some w' ↔ w.step a = some w' := by
  simp [run]

end Workers

end ScatterGather
