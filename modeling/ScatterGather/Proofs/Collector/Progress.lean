import ScatterGather.Proofs.Collector.Standing

/-!
# Calls on a registry come to an end

A call that waits needs nobody else: by its own steps and its deadline it comes to its end from
wherever it stands, unless it is given up (`canEnd_await`); when it is, it leaves by its own steps
(`canEnd_givenUp`). A removal comes to its end as well (`canEnd_unregister`). No reply arrives
meanwhile.
-/

namespace ScatterGather

variable {α : Type}

namespace Collector

/-- A task can be brought to one of some stages by steps of its own and its deadline alone. -/
def CanEnd (task : Nat) (P : RegistryTask α → Prop) (c : Collector α) : Prop :=
  ∃ more c', c.run more = some c' ∧ (∀ a ∈ more, a = .advance task ∨ a = .expire task) ∧
    (∀ id number, emitted step (arrival? id number) c more = []) ∧
    ∃ t, c'.tasks[task]? = some t ∧ P t

variable {c c' : Collector α} {task number : Nat} {P : RegistryTask α → Prop}
  {id : CorrelationId} {timeout : Duration}

/-- A task that stands where it should has no step to take. -/
theorem canEnd_here {t : RegistryTask α} (ht : c.tasks[task]? = some t) (hP : P t) :
    c.CanEnd task P :=
  ⟨[], c, rfl, by simp, fun _ _ => rfl, t, ht, hP⟩

/-- Nothing arrives when a task other than an offer moves. -/
theorem arrival?_eq_none {t : RegistryTask α} {a : CollectorAction α}
    (ht : c.tasks[task]? = some t) (ho : t.isOffer = false)
    (ha : a = .advance task ∨ a = .expire task) (hs : c.step a = some c') (id : CorrelationId)
    (number : Nat) : c.arrival? id number a = none := by
  have hdec : (c.event? a).bind (ReplyEvent.decides? id) = none := by
    rcases ha with rfl | rfl
    · obtain ⟨t', -, hm⟩ := taskMoves_of_step hs ht
      exact hm.decides?_eq_none ho id
    · rfl
  rw [arrival?, hdec]
  exact ite_self none

/-- A task that can take a step to where it can be brought to an end can be brought to it. -/
theorem CanEnd.step {t t' : RegistryTask α} {a : CollectorAction α} {r : Registry α}
    {lines : List LogLine} (ht : c.tasks[task]? = some t) (ho : t.isOffer = false)
    (ha : a = .advance task ∨ a = .expire task)
    (hs : c.step a = some (c.put task t' r lines))
    (h : (c.put task t' r lines).tasks[task]? = some t' →
      (c.put task t' r lines).CanEnd task P) : c.CanEnd task P := by
  obtain ⟨more, c', hrun, hmore, hquiet, hend⟩ :=
    h (List.getElem?_set_self (List.getElem?_eq_some_iff.mp ht).1)
  refine ⟨a :: more, c', foldlM_cons_eq_some.mpr ⟨_, hs, hrun⟩, ?_, ?_, hend⟩
  · exact List.forall_mem_cons.mpr ⟨ha, hmore⟩
  · intro id number
    simp [emitted, hs, arrival?_eq_none ht ho ha hs, hquiet]

/-! ### Removals -/

/-- A removal is over. -/
def IsRemoved (t : RegistryTask α) : Prop := ∃ id removed, t = .unregister id (.ended removed)

/-- A removal that can take a step to where it can be brought to an end can be brought to it. -/
theorem canEnd_advanceRemoval {stage stage' : RemovalStage} {r : Registry α}
    (ht : c.tasks[task]? = some (.unregister id stage))
    (hs : advanceRemoval c.registry id stage = some (stage', r))
    (h : ∀ c' : Collector α, c'.tasks[task]? = some (.unregister id stage') → c'.registry = r →
      c'.CanEnd task P) : c.CanEnd task P :=
  .step ht rfl (.inl rfl) (by simp only [step, advance, ht]; simp [hs]; rfl) fun ht' =>
    h _ ht' rfl

/-- **A removal comes to its end.** -/
theorem canEnd_unregister {stage : RemovalStage}
    (ht : c.tasks[task]? = some (.unregister id stage)) : c.CanEnd task IsRemoved := by
  have hended : ∀ {c : Collector α} {removed : Bool},
      c.tasks[task]? = some (.unregister id (.ended removed)) → c.CanEnd task IsRemoved :=
    fun ht => canEnd_here ht ⟨_, _, rfl⟩
  have hclosing : ∀ {c : Collector α} {number : Nat},
      c.tasks[task]? = some (.unregister id (.closing number)) → c.CanEnd task IsRemoved :=
    fun ht => canEnd_advanceRemoval ht rfl fun _ ht _ => hended ht
  cases stage with
  | removing =>
      cases hf : c.registry.find? id with
      | none =>
          have hs : advanceRemoval c.registry id .removing =
              some (.ended false, (c.registry.remove id).2) := by
            rw [advanceRemoval, Registry.remove_eq hf]
          exact canEnd_advanceRemoval ht hs fun _ ht _ => hended ht
      | some number =>
          have hs : advanceRemoval c.registry id .removing =
              some (.closing number, (c.registry.remove id).2) := by
            rw [advanceRemoval, Registry.remove_eq hf]
          exact canEnd_advanceRemoval ht hs fun _ ht _ => hclosing ht
  | closing number => exact hclosing ht
  | ended removed => exact hended ht

/-! ### Calls that wait -/

/-- A call has its result. -/
def HasResult (t : RegistryTask α) : Prop :=
  ∃ id timeout result, t = .await id timeout (.ended result)

/-- A call that can take a step to where it can be brought to an end can be brought to it. -/
theorem canEnd_advanceAwait {stage stage' : AwaitStage α} {r : Registry α}
    {lines : List LogLine} (ht : c.tasks[task]? = some (.await id timeout stage))
    (hs : advanceAwait task c.registry id timeout stage = some (stage', r, lines))
    (h : ∀ c' : Collector α, c'.tasks[task]? = some (.await id timeout stage') → c'.registry = r →
      c'.CanEnd task P) : c.CanEnd task P :=
  .step ht rfl (.inl rfl) (by simp only [step, advance, ht]; simp [hs]; rfl) fun ht' =>
    h _ ht' rfl

/-- A call that was given up has nothing left to do. -/
def IsGone (t : RegistryTask α) : Prop := ∃ id timeout, t = .await id timeout .gone

/-- **A call that has been given up leaves.** -/
theorem canEnd_givenUp {stage : AwaitStage α}
    (ht : c.tasks[task]? = some (.await id timeout stage)) (hs : stage.isGivenUp = true) :
    c.CanEnd task IsGone := by
  have hgone : ∀ {c : Collector α}, c.tasks[task]? = some (.await id timeout .gone) →
      c.CanEnd task IsGone := fun ht => canEnd_here ht ⟨_, _, rfl⟩
  have hsweeping : ∀ {c : Collector α} {number : Nat},
      c.tasks[task]? = some (.await id timeout (.sweeping number)) → c.CanEnd task IsGone :=
    fun ht => canEnd_advanceAwait ht rfl fun _ ht _ => hgone ht
  cases stage with
  | leaving =>
      cases hf : c.registry.find? id with
      | none =>
          have hs : advanceAwait task c.registry id timeout .leaving =
              some (.gone, (c.registry.remove id).2, []) := by
            rw [advanceAwait, Registry.remove_eq hf]
          exact canEnd_advanceAwait ht hs fun _ ht _ => hgone ht
      | some number =>
          have hs : advanceAwait task c.registry id timeout .leaving =
              some (.sweeping number, (c.registry.remove id).2, []) := by
            rw [advanceAwait, Registry.remove_eq hf]
          exact canEnd_advanceAwait ht hs fun _ ht _ => hsweeping ht
  | sweeping number => exact hsweeping ht
  | gone => exact hgone ht
  | finding | claiming _ | waiting _ _ | removing _ | closing _ _ | ended _ => cases hs

theorem canEnd_ended {result : Except ExecutionError (List α)}
    (ht : c.tasks[task]? = some (.await id timeout (.ended result))) : c.CanEnd task HasResult :=
  canEnd_here ht ⟨_, _, _, rfl⟩

theorem canEnd_closing {result : Except ExecutionError (List α)}
    (ht : c.tasks[task]? = some (.await id timeout (.closing number result))) :
    c.CanEnd task HasResult :=
  canEnd_advanceAwait ht rfl fun _ ht _ => canEnd_ended ht

theorem canEnd_removing {result : Except ExecutionError (List α)}
    (ht : c.tasks[task]? = some (.await id timeout (.removing result))) :
    c.CanEnd task HasResult := by
  cases hf : c.registry.find? id with
  | none =>
      have hs : advanceAwait task c.registry id timeout (.removing result) =
          some (.ended result, (c.registry.remove id).2, []) := by
        rw [advanceAwait, Registry.remove_eq hf]
      exact canEnd_advanceAwait ht hs fun _ ht _ => canEnd_ended ht
  | some number =>
      have hs : advanceAwait task c.registry id timeout (.removing result) =
          some (.closing number result, (c.registry.remove id).2, []) := by
        rw [advanceAwait, Registry.remove_eq hf]
      exact canEnd_advanceAwait ht hs fun _ ht _ => canEnd_closing ht

section

variable {w : Wait α} (hw : c.registry.wait? number = some w)

include hw

/-- A call that waits takes the next step on its wait. -/
theorem canEnd_waits {stage stage' : WaitStage α} {w' : Wait α}
    (ht : c.tasks[task]? = some (.await id timeout (.waiting number stage)))
    (hs : stage.advance task w = some (stage', w'))
    (h : ∀ c' : Collector α,
      c'.tasks[task]? = some (.await id timeout (.waiting number stage')) →
      c'.registry.wait? number = some w' → c'.CanEnd task P) : c.CanEnd task P := by
  have hs' : advanceAwait task c.registry id timeout (.waiting number stage) =
      some (.waiting number stage', c.registry.setWait number w', []) := by
    cases stage with
    | ended items => cases hs
    | _ => simp [advanceAwait, hw, hs]
  exact canEnd_advanceAwait ht hs' fun c' ht' hr => h c' ht' (by simp [hr, hw])

theorem canEnd_waited {items : Option (List α)}
    (ht : c.tasks[task]? = some (.await id timeout (.waiting number (.ended items)))) :
    c.CanEnd task HasResult := by
  have hs : advanceAwait task c.registry id timeout (.waiting number (.ended items)) =
      some (.removing (awaitResult id timeout w items).1, c.registry,
        (awaitResult id timeout w items).2) := by
    simp [advanceAwait, hw]
  exact canEnd_advanceAwait ht hs fun _ ht _ => canEnd_removing ht

theorem canEnd_lastLook
    (ht : c.tasks[task]? = some (.await id timeout (.waiting number .lastLook))) :
    c.CanEnd task HasResult :=
  canEnd_waits hw ht rfl fun _ ht hw => canEnd_waited hw ht

theorem canEnd_shutting
    (ht : c.tasks[task]? = some (.await id timeout (.waiting number .closing))) :
    c.CanEnd task HasResult :=
  canEnd_waits hw ht rfl fun _ ht hw => canEnd_lastLook hw ht

/-- A call that queues is ended by its deadline. -/
theorem canEnd_parked
    (ht : c.tasks[task]? = some (.await id timeout (.waiting number .parked))) :
    c.CanEnd task HasResult := by
  have hs : c.step (.expire task) = some (c.put task (.await id timeout (.waiting number .closing))
      (c.registry.setWait number (w.leave task)) []) := by
    simp [Collector.step, expire, ht, hw, WaitStage.expire]
  have hw' : (c.registry.setWait number (w.leave task)).wait? number = some (w.leave task) := by
    simp [hw]
  exact .step ht rfl (.inr rfl) hs fun ht => canEnd_shutting hw' ht

/-- A call that finds no wake-up queues. -/
theorem canEnd_parking (hu : w.wakeUp = false)
    (ht : c.tasks[task]? = some (.await id timeout (.waiting number .parking))) :
    c.CanEnd task HasResult := by
  have hs : WaitStage.advance task w .parking =
      some (.parked, { w with queue := w.queue ++ [task] }) := by
    simp [WaitStage.advance, hu]
  exact canEnd_waits hw ht hs fun _ ht hw => canEnd_parked hw ht

/-- A call that looks whether its wait is complete takes the replies, or goes on to queue. -/
theorem canEnd_checking
    (hpark : ∀ c' : Collector α,
      c'.tasks[task]? = some (.await id timeout (.waiting number .parking)) →
      c'.registry.wait? number = some w → c'.CanEnd task HasResult)
    (ht : c.tasks[task]? = some (.await id timeout (.waiting number .checking))) :
    c.CanEnd task HasResult := by
  rcases w.take?_cases with ⟨-, htake⟩ | ⟨-, htake⟩
  · have hs : WaitStage.advance task w .checking =
        some (.ended (some w.collected), w.take?.2) := by
      simp [WaitStage.advance, htake]
    exact canEnd_waits hw ht hs fun _ ht hw => canEnd_waited hw ht
  · have hs : WaitStage.advance task w .checking = some (.parking, w) := by
      simp [WaitStage.advance, htake]
    exact canEnd_waits hw ht hs hpark

/-- A wake-up that was left for it makes a call look once more. -/
theorem canEnd_parking_any
    (ht : c.tasks[task]? = some (.await id timeout (.waiting number .parking))) :
    c.CanEnd task HasResult := by
  cases hu : w.wakeUp with
  | false => exact canEnd_parking hw hu ht
  | true =>
      have hs : WaitStage.advance task w .parking =
          some (.checking, { w with wakeUp := false }) := by
        simp [WaitStage.advance, hu]
      exact canEnd_waits hw ht hs fun _ ht hw =>
        canEnd_checking hw (fun _ ht hw => canEnd_parking hw rfl ht) ht

end

/-- **A call that waits comes to its end**, unless it has been given up. -/
theorem canEnd_await {stage : AwaitStage α}
    (ht : c.tasks[task]? = some (.await id timeout stage)) (hs : stage.isGivenUp = false)
    (hwait : ∀ n, (RegistryTask.await id timeout stage).number? = some n ∨
      c.registry.find? id = some n → ∃ w, c.registry.wait? n = some w) :
    c.CanEnd task HasResult := by
  have hchecking : ∀ {c : Collector α} {n : Nat} {w : Wait α}, c.registry.wait? n = some w →
      c.tasks[task]? = some (.await id timeout (.waiting n .checking)) →
      c.CanEnd task HasResult := fun hw ht =>
    canEnd_checking hw (fun _ ht hw => canEnd_parking_any hw ht) ht
  have hclaiming : ∀ {c : Collector α} {n : Nat} {w : Wait α}, c.registry.wait? n = some w →
      c.tasks[task]? = some (.await id timeout (.claiming n)) → c.CanEnd task HasResult := by
    intro c n w hw ht
    cases hc : w.claimed with
    | true =>
        have hs : advanceAwait task c.registry id timeout (.claiming n) =
            some (.ended (.error (.invalidState (.alreadyAwaited id))), c.registry, []) := by
          simp [advanceAwait, hw, Wait.claim, hc]
        exact canEnd_advanceAwait ht hs fun _ ht _ => canEnd_ended ht
    | false =>
        have hs : advanceAwait task c.registry id timeout (.claiming n) =
            some (.waiting n .checking, c.registry.setWait n w.claim.2, []) := by
          simp [advanceAwait, hw, Wait.claim, hc]
        have hw' : (c.registry.setWait n w.claim.2).wait? n = some w.claim.2 := by simp [hw]
        exact canEnd_advanceAwait ht hs fun c' ht hr => hchecking (hr ▸ hw') ht
  cases stage with
  | finding =>
      cases hf : c.registry.find? id with
      | none =>
          have hs : advanceAwait task c.registry id timeout .finding =
              some (.ended (.error (.invalidState (.noWait id))), c.registry, []) := by
            simp [advanceAwait, hf]
          exact canEnd_advanceAwait ht hs fun _ ht _ => canEnd_ended ht
      | some n =>
          obtain ⟨w, hw⟩ := hwait n (.inr hf)
          have hs : advanceAwait task c.registry id timeout .finding =
              some (.claiming n, c.registry, []) := by
            simp [advanceAwait, hf]
          exact canEnd_advanceAwait ht hs fun c' ht hr => hclaiming (hr ▸ hw) ht
  | claiming n =>
      obtain ⟨w, hw⟩ := hwait n (.inl rfl)
      exact hclaiming hw ht
  | waiting n stage =>
      obtain ⟨w, hw⟩ := hwait n (.inl rfl)
      cases stage with
      | checking => exact hchecking hw ht
      | parking => exact canEnd_parking_any hw ht
      | parked => exact canEnd_parked hw ht
      | closing => exact canEnd_shutting hw ht
      | lastLook => exact canEnd_lastLook hw ht
      | ended items => exact canEnd_waited hw ht
  | removing result => exact canEnd_removing ht
  | closing n result => exact canEnd_closing ht
  | ended result => exact canEnd_ended ht
  | leaving | sweeping _ | gone => cases hs

end Collector

end ScatterGather
