import Mathlib.Logic.Function.Basic
import ScatterGather.Proofs.Collector.Ledger

/-!
# No wake-up is lost

One call at most waits on a wait, the one that has claimed it: `Collector.stagesOn` says where it
stands. The offer that brings the last reply accepts it in one step and wakes a call in a later one,
and in between (`Collector.WakeOwed`) the call may look, queue or run into its deadline. `Alert` is
what survives all this: a call that queues, or is about to, while its wait is complete has a wake-up
left for it, has been woken, or is going to be.

`CallerMoves` lists what a move of a collector may mean for a wait and its call
(`Collector.Moves.concerns`). Each of these keeps a call alert (`Alert.move`), so calls are alert
behind every run (`Collector.attended_of_run`).
-/

namespace ScatterGather

variable {α : Type}

/-! ### The call on a wait -/

namespace RegistryTask

/-- Where a call stands on the wait of a number. -/
def stageOn? (n : Nat) : RegistryTask α → Option (WaitStage α)
  | await _ _ (.waiting m stage) => if m = n then some stage else none
  | _ => none

/-- The task is an offer that is about to wake a call on the wait of a number. -/
def isWaking (n : Nat) : RegistryTask α → Bool
  | offer _ (.waking m) => m = n
  | _ => false

theorem stageOn?_eq_some {n : Nat} {t : RegistryTask α} {stage : WaitStage α} :
    t.stageOn? n = some stage ↔ ∃ id timeout, t = .await id timeout (.waiting n stage) := by
  constructor
  · intro h
    unfold stageOn? at h
    split at h
    · split at h <;> cases h
      next heq => exact ⟨_, _, by rw [heq]⟩
    · cases h
  · rintro ⟨id, timeout, rfl⟩
    exact if_pos rfl

theorem stageOn?_of_ne {n m : Nat} (h : m ≠ n) (id : CorrelationId) (timeout : Duration)
    (stage : WaitStage α) : (await id timeout (.waiting m stage)).stageOn? n = none :=
  if_neg h

theorem isWaking_iff {n : Nat} {t : RegistryTask α} :
    t.isWaking n = true ↔ ∃ id, t = .offer id (.waking n) := by
  constructor
  · intro h
    unfold isWaking at h
    split at h
    · exact ⟨_, by rw [of_decide_eq_true h]⟩
    · cases h
  · rintro ⟨id, rfl⟩
    exact decide_eq_true rfl

end RegistryTask

/-- The stages of the tasks on a wait where a single one waits, or none. -/
def onlyCaller : Option (Nat × WaitStage α) → Nat → Option (WaitStage α)
  | none => fun _ => none
  | some (task, stage) => Function.update (fun _ => none) task (some stage)

namespace Collector

/-- Where the tasks stand on the wait of a number. -/
def stagesOn (s : Collector α) (n task : Nat) : Option (WaitStage α) :=
  s.tasks[task]?.bind (·.stageOn? n)

/-- An offer has completed the wait of a number and is about to wake a call. -/
def WakeOwed (s : Collector α) (n : Nat) : Prop :=
  ∃ (task : Nat) (t : RegistryTask α), s.tasks[task]? = some t ∧ t.isWaking n = true

variable {s : Collector α} {n task : Nat} {t t' : RegistryTask α} {r : Registry α}
  {lines : List LogLine} {call : Option (Nat × WaitStage α)} {stage : WaitStage α}

/-- A task that begins waits on nothing. -/
theorem stagesOn_spawn (ht : t.stageOn? n = none) : (s.spawn t).stagesOn n = s.stagesOn n := by
  funext task
  rw [stagesOn, stagesOn, tasks_spawn, List.getElem?_append]
  split
  · rfl
  · next hge =>
      rw [List.getElem?_eq_none_iff.mpr (Nat.le_of_not_lt hge)]
      cases h : [t][task - s.tasks.length]? with
      | none => rfl
      | some u =>
          obtain rfl := List.mem_singleton.mp (List.mem_of_getElem? h)
          exact ht

/-- A step of a task changes where that task stands and nothing else. -/
theorem stagesOn_put (ht : s.tasks[task]? = some t) :
    (s.put task t' r lines).stagesOn n =
      Function.update (s.stagesOn n) task (t'.stageOn? n) := by
  funext other
  have hlt := (List.getElem?_eq_some_iff.mp ht).1
  by_cases h : other = task
  · subst h
    rw [Function.update_self, stagesOn, tasks_put, List.getElem?_set_self hlt]
    rfl
  · rw [Function.update_of_ne h, stagesOn, stagesOn, tasks_put, List.getElem?_set_ne (Ne.symm h)]

/-- A wake-up stays owed when a task begins. -/
theorem WakeOwed.spawn (h : s.WakeOwed n) : (s.spawn t).WakeOwed n := by
  obtain ⟨task, u, hu, hn⟩ := h
  exact ⟨task, u, getElem?_append_of_eq_some hu, hn⟩

/-- A wake-up stays owed when a task moves that does not owe it. -/
theorem WakeOwed.put (h : s.WakeOwed n) (ht : s.tasks[task]? = some t)
    (hn : t.isWaking n = false) : (s.put task t' r lines).WakeOwed n := by
  obtain ⟨other, u, hu, hun⟩ := h
  have hne : task ≠ other := by
    rintro rfl
    obtain rfl := Option.some.inj (ht.symm.trans hu)
    simp [hn] at hun
  exact ⟨other, u, by rw [tasks_put, List.getElem?_set_ne hne, hu], hun⟩

/-- An offer that is about to wake a call owes a wake-up. -/
theorem wakeOwed_put (ht : s.tasks[task]? = some t) (hn : t'.isWaking n = true) :
    (s.put task t' r lines).WakeOwed n :=
  ⟨task, t', List.getElem?_set_self (List.getElem?_eq_some_iff.mp ht).1, hn⟩

/-- A task that waits is the only one. -/
theorem call_eq (hc : s.stagesOn n = onlyCaller call) (ht : s.tasks[task]? = some t)
    (hst : t.stageOn? n = some stage) : call = some (task, stage) := by
  have hstage : onlyCaller call task = some stage := by
    rw [← hc, stagesOn, ht]
    exact hst
  cases call with
  | none => cases hstage
  | some call =>
      by_cases h : task = call.1
      · subst h
        simp only [onlyCaller, Function.update_self, Option.some.injEq] at hstage
        rw [← hstage]
      · simp [onlyCaller, Function.update_of_ne h] at hstage

/-- A step of a task that neither begins nor ceases to wait, nor waits, leaves the call where it
stands. -/
theorem onlyCaller_put (hc : s.stagesOn n = onlyCaller call) (ht : s.tasks[task]? = some t)
    (hst : t'.stageOn? n = t.stageOn? n) :
    (s.put task t' r lines).stagesOn n = onlyCaller call := by
  have hsame : s.stagesOn n task = t'.stageOn? n := by simp [stagesOn, ht, hst]
  rw [stagesOn_put ht, ← hsame, Function.update_eq_self, hc]

/-- A step of the call, or of a task that becomes it, takes it to its next stage. -/
theorem onlyCaller_put_self (hc : s.stagesOn n = onlyCaller call) (ht : s.tasks[task]? = some t)
    (hcall : ∀ c ∈ call, c.1 = task) :
    (s.put task t' r lines).stagesOn n = onlyCaller ((t'.stageOn? n).map (task, ·)) := by
  rw [stagesOn_put ht, hc]
  cases call with
  | none => cases t'.stageOn? n <;> simp [onlyCaller]
  | some call =>
      obtain rfl := hcall call rfl
      cases t'.stageOn? n <;> simp [onlyCaller]

end Collector

/-! ### What moves mean for a wait and its call -/

/-- What a move means for a wait, for the call on it and for whether a wake-up is owed. -/
inductive CallerMoves (w : Wait α) (owed owed' : Prop) :
    Option (Nat × WaitStage α) → Option (Nat × WaitStage α) → Wait α → Prop where
  | same {call} (ho : owed → owed') : CallerMoves w owed owed' call call w
  | accepted {call} (h : w.status = .collecting) (item : α) (ho : owed → owed')
    (hlast : (w.append item).2.status = .complete → owed') :
    CallerMoves w owed owed' call call (w.append item).2
  | woke {call} : CallerMoves w owed owed' call call w.wakeOne
  | closed {call} (ho : owed → owed') : CallerMoves w owed owed' call call w.close
  | claimed {task} (h : w.claimed = false) (ho : owed → owed') :
    CallerMoves w owed owed' none (some (task, .checking)) w.claim.2
  | waits {task stage taken stage' w'} (h : WaitMoves task w stage taken stage' w')
    (ho : owed → owed') : CallerMoves w owed owed' (some (task, stage)) (some (task, stage')) w'
  | returned {task items} (ho : owed → owed') :
    CallerMoves w owed owed' (some (task, .ended items)) none w
  | expired {task} (ho : owed → owed') :
    CallerMoves w owed owed' (some (task, .parked)) (some (task, .closing)) (w.leave task)
  | cancelled {task} (ho : owed → owed') :
    CallerMoves w owed owed' (some (task, .parked)) none (w.leave task)

namespace Collector

/-- Between two states a wait and its call have made one of their moves. -/
def Concerns (s s' : Collector α) (n : Nat) (w : Wait α) (call : Option (Nat × WaitStage α)) :
    Prop :=
  ∃ call' w', s'.registry.wait? n = some w' ∧ s'.stagesOn n = onlyCaller call' ∧
    CallerMoves w (s.WakeOwed n) (s'.WakeOwed n) call call' w'

variable {s s' : Collector α} {a : CollectorAction α} {n task : Nat} {w w' : Wait α}
  {call : Option (Nat × WaitStage α)} {t t' : RegistryTask α} {r : Registry α}
  {lines : List LogLine} {id : CorrelationId} {timeout : Duration} {stage stage' : WaitStage α}

/-- A step of a task that has nothing to do with the wait. -/
theorem concerns_other (hc : s.stagesOn n = onlyCaller call) (ht : s.tasks[task]? = some t)
    (hst : t'.stageOn? n = t.stageOn? n) (hwake : t.isWaking n = false)
    (hw : r.wait? n = some w) : s.Concerns (s.put task t' r lines) n w call :=
  ⟨call, w, hw, onlyCaller_put hc ht hst, .same (·.put ht hwake)⟩

/-- A step of the call that leaves it waiting. -/
theorem concerns_call (hc : s.stagesOn n = onlyCaller call)
    (ht : s.tasks[task]? = some (.await id timeout (.waiting n stage)))
    (hw : r.wait? n = some w') (hm : ∀ {owed' : Prop}, (s.WakeOwed n → owed') →
      CallerMoves w (s.WakeOwed n) owed' (some (task, stage)) (some (task, stage')) w') :
    s.Concerns (s.put task (.await id timeout (.waiting n stage')) r lines) n w call := by
  obtain rfl := call_eq hc ht (if_pos rfl)
  refine ⟨some (task, stage'), w', hw, ?_, hm (·.put ht rfl)⟩
  simp [onlyCaller_put_self hc ht, RegistryTask.stageOn?]

/-- The last step of the call on its wait. -/
theorem concerns_last (hc : s.stagesOn n = onlyCaller call)
    (ht : s.tasks[task]? = some (.await id timeout (.waiting n stage)))
    (hst : t'.stageOn? n = none) (hw : r.wait? n = some w')
    (hm : ∀ {owed' : Prop}, (s.WakeOwed n → owed') →
      CallerMoves w (s.WakeOwed n) owed' (some (task, stage)) none w') :
    s.Concerns (s.put task t' r lines) n w call := by
  obtain rfl := call_eq hc ht (if_pos rfl)
  refine ⟨none, w', hw, ?_, hm (·.put ht rfl)⟩
  simp [onlyCaller_put_self hc ht, hst]

/-- A step of a task is a move of every wait and its call. -/
theorem concerns_task {event : Option (ReplyEvent α)} (hc : s.stagesOn n = onlyCaller call)
    (hw : s.registry.wait? n = some w) (hfree : w.claimed = false → call = none)
    (ht : s.tasks[task]? = some t) (hm : TaskMoves task s.registry t event t' r) :
    s.Concerns (s.put task t' r lines) n w call := by
  cases hm with
  | found _ | unknown _ | refused _ _ | awaitFound _ | awaitUnknown _ | awaited _ _ | removed _
  | absent _ | left _ | leftNothing _ | unregistered _ | notRegistered _ =>
      exact concerns_other hc ht rfl rfl (by simpa using hw)
  | @accepted id m item v hv hcol =>
      by_cases hm : m = n
      · subst hm
        obtain rfl := Option.some.inj (hw.symm.trans hv)
        refine ⟨call, _, by simp [hw], onlyCaller_put hc ht rfl,
          .accepted hcol item (·.put ht rfl) fun hlast => wakeOwed_put ht ?_⟩
        rw [if_pos hlast]
        exact decide_eq_true rfl
      · exact concerns_other hc ht rfl rfl (by simp [hm, hw])
  | @woke id m v hv =>
      by_cases hm : m = n
      · subst hm
        obtain rfl := Option.some.inj (hw.symm.trans hv)
        exact ⟨call, _, by simp [hw], onlyCaller_put hc ht rfl, .woke⟩
      · exact concerns_other hc ht rfl (decide_eq_false hm) (by simp [hm, hw])
  | @claimed id timeout m v hv hcl =>
      by_cases hm : m = n
      · subst hm
        obtain rfl := Option.some.inj (hw.symm.trans hv)
        obtain rfl := hfree hcl
        refine ⟨some (task, .checking), _, by simp [hw], ?_, .claimed hcl (·.put ht rfl)⟩
        simp [onlyCaller_put_self hc ht, RegistryTask.stageOn?]
      · exact concerns_other hc ht (RegistryTask.stageOn?_of_ne hm ..) rfl (by simp [hm, hw])
  | @waits id timeout m stage taken stage' v v' hv hwm =>
      by_cases hm : m = n
      · subst hm
        obtain rfl := Option.some.inj (hw.symm.trans hv)
        exact concerns_call hc ht (by simp [hw]) (.waits hwm)
      · refine concerns_other hc ht ?_ rfl (by simp [hm, hw])
        rw [RegistryTask.stageOn?_of_ne hm, RegistryTask.stageOn?_of_ne hm]
  | @returned id timeout m items v hv =>
      by_cases hm : m = n
      · subst hm
        exact concerns_last hc ht rfl hw .returned
      · exact concerns_other hc ht (RegistryTask.stageOn?_of_ne hm ..).symm rfl hw
  | @shut id timeout m result | @swept id timeout m | @unregisterShut id m =>
      by_cases hm : m = n
      · subst hm
        exact ⟨call, _, by simp [hw], onlyCaller_put hc ht rfl, .closed (·.put ht rfl)⟩
      · exact concerns_other hc ht rfl rfl (by simp [hm, hw])

/-- **Every move of a collector is a move of every wait and its call.** -/
theorem Moves.concerns (h : s.Moves a s') (hc : s.stagesOn n = onlyCaller call)
    (hw : s.registry.wait? n = some w) (hfree : w.claimed = false → call = none) :
    s.Concerns s' n w call := by
  cases h with
  | registered h =>
      have hn : n ≠ s.registry.waits.length := fun hn => by
        rw [Registry.wait?_eq_none_iff.mpr (Nat.le_of_eq hn.symm)] at hw
        cases hw
      exact ⟨call, w, by rw [Registry.wait?_enter, if_neg hn, hw], hc, .same id⟩
  | occupied _ => exact ⟨call, w, hw, hc, .same id⟩
  | offer | await | unregister =>
      exact ⟨call, w, hw, (stagesOn_spawn rfl).trans hc, .same (·.spawn)⟩
  | task ht hm => exact concerns_task hc hw hfree ht hm
  | forgotten ht => exact concerns_other hc ht rfl rfl hw
  | @expired task id timeout m v ht hv =>
      by_cases hm : m = n
      · subst hm
        obtain rfl := Option.some.inj (hw.symm.trans hv)
        exact concerns_call hc ht (by simp [hw]) .expired
      · refine concerns_other hc ht ?_ rfl (by simp [hm, hw])
        rw [RegistryTask.stageOn?_of_ne hm, RegistryTask.stageOn?_of_ne hm]
  | @cancelled task id timeout m v ht hv =>
      by_cases hm : m = n
      · subst hm
        obtain rfl := Option.some.inj (hw.symm.trans hv)
        exact concerns_last hc ht rfl (by simp [hw]) .cancelled
      · exact concerns_other hc ht (RegistryTask.stageOn?_of_ne hm ..).symm rfl
          (by simp [hm, hw])

end Collector

/-! ### What keeps a call alert -/

/-- The status of a wait is one that a call at this stage may meet. -/
def WaitStage.Fits (status : WaitStatus) : WaitStage α → Prop
  | .checking | .parking | .parked | .closing => status ≠ .delivered
  | .lastLook => status = .complete ∨ status = .closed
  | .ended none => status = .closed
  | .ended (some _) => status = .delivered

/-- The calls in the queue or woken from it: the one that waits, if it queues. -/
def inLine : Option (Nat × WaitStage α) → List Nat
  | some (task, .parked) => [task]
  | _ => []

theorem inLine_eq_nil {call : Option (Nat × WaitStage α)}
    (h : ∀ task, call ≠ some (task, .parked)) : inLine call = [] := by
  unfold inLine
  split
  · exact absurd rfl (h _)
  · rfl

namespace Wait

variable {w : Wait α} {task : Nat}

theorem wakeOne_of_nobody (h : w.queue = []) : w.wakeOne = { w with wakeUp := true } := by
  unfold wakeOne
  rw [h]

/-- A call that is alone in the line has been woken behind a wake-up. -/
theorem wakeOne_of_line (h : w.queue ++ w.woken = [task]) :
    w.wakeOne.queue = [] ∧ w.wakeOne.woken = [task] := by
  unfold wakeOne
  split
  · next hq => simpa [hq] using h
  · next first rest hq =>
      simp only [hq, List.cons_append, List.cons.injEq, List.append_eq_nil_iff] at h
      obtain ⟨rfl, rfl, hwoken⟩ := h
      simp [hwoken]

/-- A call that is alone in the line leaves it empty. -/
theorem leave_of_line (h : w.queue ++ w.woken = [task]) :
    (w.leave task).queue = [] ∧ (w.leave task).woken = [] := by
  rcases List.append_eq_singleton_iff.mp h with ⟨hq, hwoken⟩ | ⟨hq, hwoken⟩
  · simp [leave, hwoken, wakeOne, hq]
  · simp [leave, hwoken, hq]

end Wait

/-- The call on a wait cannot miss that it is complete. -/
structure Alert (call : Option (Nat × WaitStage α)) (owed : Prop) (w : Wait α) : Prop where
  /-- Nobody waits on a wait that nobody has claimed, and its replies have not been taken. -/
  unclaimed : w.claimed = false → call = none ∧ w.status ≠ .delivered
  fits : ∀ {task stage}, call = some (task, stage) → stage.Fits w.status
  lined : w.queue ++ w.woken = inLine call
  /-- A call that is about to queue beside its replies will find a wake-up. -/
  parking : ∀ {task}, call = some (task, .parking) → w.status = .complete →
    owed ∨ w.wakeUp = true
  /-- A call that queues beside its replies has been woken or is going to be. -/
  parked : ∀ {task}, call = some (task, .parked) → w.status = .complete → owed ∨ task ∈ w.woken

/-- What others make of a wait that collects does not go against the stage of its call. -/
theorem WaitStage.Fits.of_collecting {stage : WaitStage α} {status : WaitStatus}
    (h : stage.Fits .collecting) (hs : status ≠ .delivered) : stage.Fits status := by
  cases stage with
  | checking | parking | parked | closing => exact hs
  | lastLook => simp [Fits] at h
  | ended items => cases items <;> simp [Fits] at h

namespace Alert

variable {call call' : Option (Nat × WaitStage α)} {owed owed' : Prop} {w w' : Wait α}
  {task : Nat}

/-- Nobody waits on a new wait. -/
theorem new (expected : Nat) : Alert none owed (.new expected : Wait α) where
  unclaimed _ := by
    refine ⟨rfl, ?_⟩
    unfold Wait.new
    dsimp only
    split <;> simp
  fits h := by cases h
  lined := rfl
  parking h := by cases h
  parked h := by cases h

/-- A wake-up may become owed. -/
theorem mono (h : Alert call owed w) (ho : owed → owed') : Alert call owed' w where
  unclaimed := h.unclaimed
  fits := h.fits
  lined := h.lined
  parking hc hs := (h.parking hc hs).imp_left ho
  parked hc hs := (h.parked hc hs).imp_left ho

/-- An accepted reply keeps a call alert, since the last one comes with a wake-up. -/
theorem append (h : Alert call owed w) (hcol : w.status = .collecting) (item : α)
    (hlast : (w.append item).2.status = .complete → owed') :
    Alert call owed' (w.append item).2 where
  unclaimed hc := by
    refine ⟨(h.unclaimed (by simpa using hc)).1, ?_⟩
    rw [Wait.append_status hcol]
    split <;> simp
  fits hc := by
    refine WaitStage.Fits.of_collecting (hcol ▸ h.fits hc) ?_
    rw [Wait.append_status hcol]
    split <;> simp
  lined := by
    rw [Wait.append_of_collecting hcol]
    exact h.lined
  parking _ hs := .inl (hlast hs)
  parked _ hs := .inl (hlast hs)

/-- A wait that is closed keeps a call alert: a complete one is not closed. -/
theorem close (h : Alert call owed w) : Alert call owed w.close := by
  by_cases hcol : w.status = .collecting
  · have hclose : w.close = { w with status := .closed } := if_pos hcol
    rw [hclose]
    exact ⟨fun hc => ⟨(h.unclaimed hc).1, nofun⟩, fun hc => (hcol ▸ h.fits hc).of_collecting nofun,
      h.lined, nofun, nofun⟩
  · rw [Wait.close_of_not_collecting hcol]
    exact h

/-- A wake-up reaches the call that queues, or is left for the next one. -/
theorem wakeOne (h : Alert call owed w) : Alert call owed' w.wakeOne := by
  have hstatus := w.sameReplies_wakeOne.status
  have hunclaimed : w.wakeOne.claimed = false → call = none ∧ w.wakeOne.status ≠ .delivered := by
    simpa [hstatus] using h.unclaimed
  have hfits : ∀ {task stage}, call = some (task, stage) → stage.Fits w.wakeOne.status :=
    fun hc => hstatus ▸ h.fits hc
  by_cases hp : ∃ task, call = some (task, .parked)
  · obtain ⟨task, rfl⟩ := hp
    obtain ⟨hq, hwoken⟩ := Wait.wakeOne_of_line h.lined
    refine ⟨hunclaimed, hfits, by rw [hq, hwoken]; rfl, nofun, ?_⟩
    intro other hc _
    cases hc
    exact .inr (by simp [hwoken])
  · have hline : inLine call = [] := inLine_eq_nil fun task hc => hp ⟨task, hc⟩
    have hwake := Wait.wakeOne_of_nobody (List.append_eq_nil_iff.mp (h.lined.trans hline)).1
    exact ⟨hunclaimed, hfits, hwake ▸ h.lined, fun _ _ => .inr (by rw [hwake]),
      fun hc => absurd ⟨_, hc⟩ hp⟩

/-- What makes the call on a claimed wait alert. -/
theorem ofCall {stage : WaitStage α} (hc : w.claimed = true) (hf : stage.Fits w.status)
    (hl : w.queue ++ w.woken = inLine (some (task, stage)))
    (hparking : stage = .parking → w.status = .complete → owed ∨ w.wakeUp = true)
    (hparked : stage = .parked → w.status = .complete → owed ∨ task ∈ w.woken) :
    Alert (some (task, stage)) owed w where
  unclaimed hn := by simp [hc] at hn
  fits h := by
    cases h
    exact hf
  lined := hl
  parking h := by
    cases h
    exact hparking rfl
  parked h := by
    cases h
    exact hparked rfl

/-- A call that has claimed its wait is about to look whether it is complete. -/
theorem claim (h : Alert none owed w) (hc : w.claimed = false) :
    Alert (some (task, .checking)) owed w.claim.2 :=
  ofCall rfl (h.unclaimed hc).2 h.lined nofun nofun

/-- A wait on which a call waits has been claimed. -/
theorem claimed {stage : WaitStage α} (h : Alert (some (task, stage)) owed w) :
    w.claimed = true := by
  by_contra hc
  cases (h.unclaimed (by simpa using hc)).1

/-- A call stays alert by its own steps: it queues without a wake-up only when one is owed. -/
theorem waits {stage stage' : WaitStage α} {taken : Option (List α)}
    (h : Alert (some (task, stage)) owed w) (hm : WaitMoves task w stage taken stage' w') :
    Alert (some (task, stage')) owed w' := by
  have hfits := h.fits rfl
  have hline := h.lined
  have hclaimed := hm.evolves.claimed h.claimed
  cases hm with
  | took hc =>
      rw [Wait.take?_of_complete hc] at hclaimed ⊢
      exact ofCall hclaimed rfl hline nofun nofun
  | missed hc => exact ofCall hclaimed hfits hline (fun _ hs => absurd hs hc) nofun
  | resumed _ => exact ofCall hclaimed hfits hline nofun nofun
  | queued hu =>
      have hempty : w.queue = [] ∧ w.woken = [] := List.append_eq_nil_iff.mp hline
      refine ofCall hclaimed hfits (by simp [hempty, inLine]) nofun fun _ hs => ?_
      -- there was no wake-up to be found, so it is still owed
      exact .inl ((h.parking rfl hs).resolve_right (by simp [hu]))
  | woken hwoken =>
      have hempty : w.queue = [] ∧ w.woken = [task] := by
        rcases List.append_eq_singleton_iff.mp hline with ⟨hq, hw⟩ | ⟨_, hw⟩
        · exact ⟨hq, hw⟩
        · simp [hw] at hwoken
      exact ofCall hclaimed hfits (by simp [hempty, inLine]) nofun nofun
  | shut =>
      refine ofCall hclaimed ?_ h.close.lined nofun nofun
      -- neither collecting, having been closed, nor delivered
      have hc := w.close_status_ne
      have hd : w.close.status ≠ .delivered := h.close.fits rfl
      revert hc hd
      cases w.close.status <;> simp [WaitStage.Fits]
  | looked =>
      rcases w.take?_cases with ⟨_, ht⟩ | ⟨hc, ht⟩ <;> rw [ht] at hclaimed ⊢
      · exact ofCall hclaimed rfl hline nofun nofun
      · exact ofCall hclaimed (Or.resolve_left hfits hc) hline nofun nofun

/-- A call that leaves the queue leaves nobody in it, past its deadline or given up. -/
theorem leave (h : Alert (some (task, .parked)) owed w) :
    Alert (some (task, .closing)) owed (w.leave task) ∧ Alert none owed (w.leave task) := by
  obtain ⟨hq, hwoken⟩ := Wait.leave_of_line h.lined
  have hline : (w.leave task).queue ++ (w.leave task).woken = [] := by rw [hq, hwoken]; rfl
  have hclaimed : (w.leave task).claimed = true := by simpa using h.claimed
  have hstatus : (w.leave task).status ≠ .delivered :=
    (w.sameReplies_leave task).status ▸ h.fits rfl
  exact ⟨ofCall hclaimed hstatus hline nofun nofun,
    ⟨fun _ => ⟨rfl, hstatus⟩, nofun, hline, nofun, nofun⟩⟩

/-- Nobody waits behind a call that has its result. -/
theorem returned {items : Option (List α)} (h : Alert (some (task, .ended items)) owed w) :
    Alert none owed w :=
  ⟨fun hc => by simp [h.claimed] at hc, nofun, h.lined, nofun, nofun⟩

/-- **Every move keeps a call alert.** -/
theorem move (h : Alert call owed w) (hm : CallerMoves w owed owed' call call' w') :
    Alert call' owed' w' := by
  cases hm with
  | same ho => exact h.mono ho
  | accepted hcol item _ hlast => exact h.append hcol item hlast
  | woke => exact h.wakeOne
  | closed ho => exact (h.mono ho).close
  | claimed hc ho => exact (h.mono ho).claim hc
  | waits hm ho => exact (h.mono ho).waits hm
  | returned ho => exact (h.mono ho).returned
  | expired ho => exact (h.mono ho).leave.1
  | cancelled ho => exact (h.mono ho).leave.2

end Alert

/-! ### Calls are alert behind every run -/

namespace Collector

variable {s s' : Collector α} {a : CollectorAction α} {n : Nat}

/-- Nobody waits on a wait that a move makes. -/
theorem Moves.stagesOn_new {events : List (ReplyEvent α)} (h : s.Moves a s')
    (hL : Ledger events s) (hn : s.registry.wait? n = none) {w : Wait α}
    (hw : s'.registry.wait? n = some w) : s'.stagesOn n = onlyCaller none := by
  obtain ⟨expected, rfl⟩ := (h.wait?_eq_none hn).2 w hw
  funext task
  by_contra hne
  obtain ⟨stage, hstage⟩ := Option.ne_none_iff_exists'.mp hne
  obtain ⟨t, ht, hst⟩ := Option.bind_eq_some_iff.mp hstage
  obtain ⟨id, timeout, rfl⟩ := RegistryTask.stageOn?_eq_some.mp hst
  rcases h.waiting_cases ht with ⟨_, hold⟩ | ⟨v, hv, hc⟩
  · obtain ⟨v, hv, -⟩ := hL.claimed hold
    simp [hn] at hv
  · obtain rfl := Option.some.inj (hw.symm.trans hv)
    cases hc

/-- Every wait has one call at most, and that is alert. -/
def Attended (s : Collector α) : Prop :=
  ∀ (n : Nat) (w : Wait α), s.registry.wait? n = some w →
    ∃ call, s.stagesOn n = onlyCaller call ∧ Alert call (s.WakeOwed n) w

/-- Every move leaves the calls alert. -/
theorem Attended.move {events : List (ReplyEvent α)} (h : s.Attended) (hL : Ledger events s)
    (hm : s.Moves a s') : s'.Attended := by
  intro n w' hw'
  cases hn : s.registry.wait? n with
  | none =>
      obtain ⟨expected, rfl⟩ := (hm.wait?_eq_none hn).2 w' hw'
      exact ⟨none, hm.stagesOn_new hL hn hw', .new expected⟩
  | some w =>
      obtain ⟨call, hc, halert⟩ := h n w hn
      obtain ⟨call', v, hv, hc', hcm⟩ := hm.concerns hc hn fun hcl => (halert.unclaimed hcl).1
      obtain rfl : w' = v := Option.some.inj (hw'.symm.trans hv)
      exact ⟨call', hc', halert.move hcm⟩

/-- **No call misses that its wait is complete**, behind every run. -/
theorem attended_of_run {actions : List (CollectorAction α)}
    (h : Collector.empty.run actions = some s) : s.Attended := by
  refine foldlM_induction (P := fun _ s => Attended s) ?_ ?_ h
  · intro n w hw
    simp [Collector.empty, Registry.empty, Registry.wait?] at hw
  · intro _ _ _ _ hrun hA hstep
    exact hA.move (ledger_of_run hrun) (moves_of_step hstep)

end Collector

end ScatterGather
