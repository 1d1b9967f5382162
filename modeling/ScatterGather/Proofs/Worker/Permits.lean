import ScatterGather.Proofs.Worker.Moves

/-!
# Permits

The tasks that hold or want a permit of a pool stand in one line (`Pool.wanting`), the holders in
front: a task joins behind, a permit that comes back only moves the border, and a task that ends
leaves it. So the free and the held permits always add up to the size of the pool (`Pool.Sound`),
and those who stand in line are the tasks that are queued or running (`Workers.Sound`).
-/

namespace ScatterGather

/-! ### The line of a pool -/

namespace Pool

/-- The tasks that hold or want a permit, those that hold one in front. -/
def wanting (p : Pool) : List Nat := p.holders ++ p.queue

/-- No permit is lost, and none is free while tasks queue. -/
structure Sound (p : Pool) : Prop where
  balance : p.free + p.holders.length = p.size
  busy : 0 < p.free → p.queue = []

variable {p : Pool} {task n : Nat}

theorem sound_ofSize (size : Nat) : (ofSize size).Sound := ⟨rfl, fun _ => rfl⟩

/-- There is a pool of every size up to the greatest one. -/
theorem ofSize?_eq_some_iff {size : Nat} :
    ofSize? size = some p ↔ max size 1 ≤ maxPermits ∧ ofSize size = p := by
  simp [ofSize?]

/-- There is none beyond. -/
theorem ofSize?_eq_none_iff {size : Nat} : ofSize? size = none ↔ maxPermits < size := by
  have hone : 1 ≤ maxPermits := by decide
  simp only [ofSize?, ite_eq_right_iff, reduceCtorEq, imp_false]
  omega

theorem size_ofSize_pos (size : Nat) : 0 < (ofSize size).size := Nat.le_max_right size 1

theorem mem_wanting_of_holds (h : n ∈ p.holders) : n ∈ p.wanting := List.mem_append_left _ h

/-- A task that asks for a permit joins the line. -/
theorem wanting_request (h : p.Sound) (task : Nat) :
    (p.request task).wanting = p.wanting ++ [task] := by
  unfold request
  split
  · next hf => simp [wanting, h.busy hf]
  · simp [wanting]

/-- A permit that comes back leaves the line as it is. -/
theorem wanting_pass (p : Pool) : p.pass.wanting = p.wanting := by
  unfold pass
  split <;> simp_all [wanting]

/-- A task that ends leaves the line. -/
theorem wanting_release (p : Pool) (task : Nat) :
    (p.release task).wanting = p.wanting.erase task := by
  unfold release
  split
  · next hh =>
      rw [wanting_pass, wanting, wanting, List.erase_append_left _ (by simpa [holds] using hh)]
  · next hh => rw [wanting, wanting, List.erase_append_right _ (by simpa [holds] using hh)]

theorem mem_holders_request (task : Nat) (h : n ∈ p.holders) : n ∈ (p.request task).holders := by
  unfold request
  split
  · exact List.mem_append_left _ h
  · exact h

theorem mem_holders_pass (h : n ∈ p.holders) : n ∈ p.pass.holders := by
  unfold pass
  split
  · exact h
  · exact List.mem_append_left _ h

/-- Who holds a permit keeps it when another task ends. -/
theorem mem_holders_release (hn : n ≠ task) (h : n ∈ p.holders) :
    n ∈ (p.release task).holders := by
  unfold release
  split
  · exact mem_holders_pass ((List.mem_erase_of_ne hn).mpr h)
  · exact h

namespace Sound

theorem request (h : p.Sound) (task : Nat) : (p.request task).Sound := by
  have hb := h.balance
  unfold Pool.request
  split
  · next hf =>
      refine ⟨?_, fun _ => h.busy hf⟩
      simp only [List.length_append, List.length_singleton]
      omega
  · next hf => exact ⟨hb, fun hf' => absurd hf' hf⟩

theorem release (h : p.Sound) (task : Nat) : (p.release task).Sound := by
  have hb := h.balance
  unfold Pool.release
  split
  · next hh =>
      have hmem : task ∈ p.holders := by simpa [holds] using hh
      have hlen := List.length_erase_of_mem hmem
      have hpos := List.length_pos_of_mem hmem
      unfold pass
      split
      · next hq =>
          refine ⟨?_, fun _ => hq⟩
          simp only at hq ⊢
          omega
      · next next rest hq =>
          have hfree : ¬0 < p.free := fun hf => by simp [h.busy hf] at hq
          refine ⟨?_, fun hf => absurd hf hfree⟩
          simp only [List.length_append, List.length_singleton]
          omega
  · exact ⟨hb, fun hf => by simp [h.busy hf]⟩

theorem pool {β : Type} (h : p.Sound) (a : WorkerAction β) : (a.pool p).Sound := by
  cases a with
  | request n => exact h.request n
  | finish n _ | reap n => exact h.release n
  | spawn _ | start _ | work _ _ | abort _ => exact h

end Sound

/-- The size of a pool never changes. -/
theorem size_pool {β : Type} (p : Pool) (a : WorkerAction β) : (a.pool p).size = p.size := by
  have hrelease : ∀ n, (p.release n).size = p.size := fun n => by
    unfold release pass
    split
    · split <;> rfl
    · rfl
  cases a with
  | request n =>
      show (p.request n).size = p.size
      unfold request
      split <;> rfl
  | finish n _ | reap n => exact hrelease n
  | spawn _ | start _ | work _ _ | abort _ => rfl

/-- While a task queues, another one holds a permit. -/
theorem Sound.exists_holder (h : p.Sound) (hs : 0 < p.size) (hq : p.queue ≠ []) :
    ∃ n, n ∈ p.holders := by
  have hb := h.balance
  have hf : ¬0 < p.free := fun hf => hq (h.busy hf)
  exact List.exists_mem_of_length_pos (by omega)

end Pool

/-! ### Tasks and the line -/

/-- The task holds or wants a permit. -/
def WorkerStage.wants : WorkerStage → Bool
  | .queued | .running => true
  | .fresh | .ended _ => false

namespace Workers

variable {β : Type} {w w' : Workers β} {a : WorkerAction β} {n : Nat} {t : Worker β}

/-- Tasks stand in line exactly as long as they are queued or running, each once, and those that run
hold a permit. -/
structure Sound (w : Workers β) : Prop where
  pool : w.pool.Sound
  nodup : w.pool.wanting.Nodup
  wants : ∀ n : Nat, n ∈ w.pool.wanting ↔ ∃ t, w.tasks[n]? = some t ∧ t.stage.wants = true
  runs : ∀ (n : Nat) (t : Worker β), w.tasks[n]? = some t → t.stage = .running → n ∈ w.pool.holders

theorem sound_ofPool {p : Pool} (hp : p.Sound) (hw : p.wanting = []) :
    (ofPool p : Workers β).Sound :=
  ⟨hp, by simp [ofPool, hw], fun n => by simp [ofPool, hw], fun n t ht => by simp [ofPool] at ht⟩

/-- Spawning a task changes no line. -/
theorem Sound.spawn (h : w.Sound) (body : β) : (w.spawn body).Sound where
  pool := h.pool
  nodup := h.nodup
  wants n := by
    show n ∈ w.pool.wanting ↔ _
    rw [h.wants]
    constructor
    · rintro ⟨t, ht, hs⟩
      exact ⟨t, getElem?_append_of_eq_some ht, hs⟩
    · rintro ⟨t, ht, hs⟩
      rcases getElem?_concat_eq_some ht with ht | ⟨-, rfl⟩
      · exact ⟨t, ht, hs⟩
      · cases hs
  runs n t ht hs := by
    rcases getElem?_concat_eq_some ht with ht | ⟨-, rfl⟩
    · exact h.runs n t ht hs
    · cases hs

/-- A task takes its place in line, or leaves it, by what it does itself. -/
theorem Sound.put (h : w.Sound) (ht : w.tasks[n]? = some t) {p : Pool} {t' : Worker β}
    (hp : p.Sound) (hnodup : p.wanting.Nodup)
    (hwants : ∀ m, m ∈ p.wanting ↔ m ≠ n ∧ m ∈ w.pool.wanting ∨ m = n ∧ t'.stage.wants = true)
    (hkeeps : ∀ m, m ≠ n → m ∈ w.pool.holders → m ∈ p.holders)
    (hruns : t'.stage = .running → n ∈ p.holders) : Sound ⟨p, w.tasks.set n t'⟩ where
  pool := hp
  nodup := hnodup
  wants m := by
    rw [hwants]
    by_cases hm : m = n
    · subst hm
      simp [List.getElem?_set_self (List.getElem?_eq_some_iff.mp ht).1]
    · simp [hm, List.getElem?_set_ne (Ne.symm hm), h.wants]
  runs m t hm hs := by
    by_cases hmn : m = n
    · subst hmn
      have hself : (w.tasks.set m t')[m]? = some t' :=
        List.getElem?_set_self (List.getElem?_eq_some_iff.mp ht).1
      obtain rfl := Option.some.inj (hself.symm.trans hm)
      exact hruns hs
    · have hm : (w.tasks.set n t')[m]? = some t := hm
      rw [List.getElem?_set_ne (Ne.symm hmn)] at hm
      exact hkeeps m hmn (h.runs m t hm hs)

/-- A task whose place in line is not touched. -/
theorem Sound.putStill (h : w.Sound) (ht : w.tasks[n]? = some t) {t' : Worker β}
    (hs : t'.stage.wants = t.stage.wants)
    (hruns : t'.stage = .running → n ∈ w.pool.holders) : Sound ⟨w.pool, w.tasks.set n t'⟩ := by
  refine h.put ht h.pool h.nodup ?_ (fun _ _ hm => hm) hruns
  intro m
  by_cases hm : m = n
  · subst hm
    simp [h.wants, ht, hs]
  · simp [hm]

/-- A task that ends. -/
theorem Sound.putEnded (h : w.Sound) (ht : w.tasks[n]? = some t) {how : WorkerEnd} :
    Sound ⟨w.pool.release n, w.tasks.set n { t with stage := .ended how }⟩ := by
  refine h.put ht (h.pool.release n) ?_ ?_
    (fun m hm hh => Pool.mem_holders_release hm hh) nofun
  · rw [Pool.wanting_release]
    exact h.nodup.erase n
  · intro m
    rw [Pool.wanting_release, h.nodup.mem_erase_iff]
    simp [WorkerStage.wants]

/-- **Every move keeps the line and the tasks in step.** -/
theorem Sound.move (h : w.Sound) (hm : w.Moves a w') : w'.Sound := by
  cases hm with
  | spawned ha hw => exact hw ▸ h.spawn _
  | ignored ha hw => exact hw ▸ h
  | @task n t t' ht hm hw =>
      subst hw
      cases hm with
      | requested hs ha =>
          have hout : n ∉ w.pool.wanting := by simp [h.wants, ht, hs, WorkerStage.wants]
          refine h.put ht (h.pool.request n) ?_ ?_
            (fun m _ hh => Pool.mem_holders_request n hh) nofun
          · show (w.pool.request n).wanting.Nodup
            rw [Pool.wanting_request h.pool]
            exact List.nodup_append.mpr ⟨h.nodup, List.nodup_singleton n, by
              rintro m hm _ hn rfl
              exact hout (List.mem_singleton.mp hn ▸ hm)⟩
          · intro m
            show m ∈ (w.pool.request n).wanting ↔ _
            rw [Pool.wanting_request h.pool]
            by_cases hmn : m = n
            · simp [hmn, WorkerStage.wants]
            · simp [hmn]
      | started hs ha hp => exact h.putStill ht (by simp [hs, WorkerStage.wants]) fun _ => hp
      | worked hs ha => exact h.putStill ht rfl fun _ => h.runs _ _ ht hs
      | finished hs ha => exact h.putEnded ht
      | aborted he => exact h.putStill ht rfl fun hs => h.runs _ _ ht hs
      | reaped he ha => exact h.putEnded ht

/-- The size of the pool never changes. -/
theorem Moves.size_eq (hm : w.Moves a w') : w'.pool.size = w.pool.size := by
  cases hm with
  | spawned _ hw =>
      rw [hw]
      rfl
  | ignored _ hw => rw [hw]
  | task _ _ hw => rw [hw, Pool.size_pool]

/-- Along a run tasks and their line stay in step. -/
theorem Sound.run (h : w.Sound) {actions : List (WorkerAction β)} (hr : w.run actions = some w') :
    w'.Sound ∧ w'.pool.size = w.pool.size :=
  foldlM_invariant (P := fun w' : Workers β => w'.Sound ∧ w'.pool.size = w.pool.size)
    (fun hP hs => ⟨hP.1.move (moves_of_step hs), (moves_of_step hs).size_eq.trans hP.2⟩)
    ⟨h, rfl⟩ hr

end Workers

end ScatterGather
