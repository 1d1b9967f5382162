import ScatterGather.Proofs.Collector.Claimant

/-!
# Timeouts are truthful, and no completion is missed

A call that has claimed its wait is on its course whatever happens (`Claimant`). So, behind every
run (`timeouts_are_truthful`):

* Replies that it returns are all that its wait has accepted, as many as it expects.
* A timeout that it returns counts the replies that its wait has accepted, fewer than it expects.
  The wait never accepts another one, and every offer that still holds it is refused.
* When all replies have been accepted before the wait was closed, the call returns them, wherever
  the last one found it. It does not need its deadline for that (`Claimant.unmissed`), since it
  never queues without a wake-up on its way (`Alert`), and it takes seven steps at most
  (`Claimant.brief`).
-/

namespace ScatterGather

variable {α : Type} {task n : Nat} {id : CorrelationId} {timeout : Duration}
  {events : List (ReplyEvent α)} {s s' : Collector α} {w w' : Wait α} {stage : AwaitStage α}
  {a : CollectorAction α} {items : List α}

/-! ### The call returns without its deadline -/

namespace Collector

/-- By its own steps a call comes to return some replies. -/
def Returns (task : Nat) (id : CorrelationId) (timeout : Duration) (items : List α)
    (c : Collector α) : Prop :=
  ∃ more c', c.run more = some c' ∧ (∀ a ∈ more, a = .advance task) ∧
    c'.tasks[task]? = some (.await id timeout (.ended (.ok items)))

variable {c : Collector α}

/-- A call that can take a step to where it returns replies returns them. -/
theorem returns_advance {stage stage' : AwaitStage α} {r : Registry α} {lines : List LogLine}
    (ht : c.tasks[task]? = some (.await id timeout stage))
    (hs : advanceAwait task c.registry id timeout stage = some (stage', r, lines))
    (h : ∀ c' : Collector α, c'.tasks[task]? = some (.await id timeout stage') →
      c'.registry = r → c'.Returns task id timeout items) : c.Returns task id timeout items := by
  have hstep : c.step (.advance task) = some (c.put task (.await id timeout stage') r lines) := by
    simp only [step, advance, ht]
    simp [hs]
  obtain ⟨more, c', hrun, hmore, hend⟩ := h (c.put task (.await id timeout stage') r lines)
    (List.getElem?_set_self (List.getElem?_eq_some_iff.mp ht).1) rfl
  exact ⟨.advance task :: more, c', foldlM_cons_eq_some.mpr ⟨_, hstep, hrun⟩,
    List.forall_mem_cons.mpr ⟨rfl, hmore⟩, hend⟩

theorem returns_ended (ht : c.tasks[task]? = some (.await id timeout (.ended (.ok items)))) :
    c.Returns task id timeout items :=
  ⟨[], c, rfl, by simp, ht⟩

theorem returns_closing {m : Nat}
    (ht : c.tasks[task]? = some (.await id timeout (.closing m (.ok items)))) :
    c.Returns task id timeout items :=
  returns_advance ht rfl fun _ ht _ => returns_ended ht

theorem returns_removing (ht : c.tasks[task]? = some (.await id timeout (.removing (.ok items)))) :
    c.Returns task id timeout items := by
  cases hf : c.registry.find? id with
  | none =>
      have hs : advanceAwait task c.registry id timeout (.removing (.ok items)) =
          some (.ended (.ok items), (c.registry.remove id).2, []) := by
        rw [advanceAwait, Registry.remove_eq hf]
      exact returns_advance ht hs fun _ ht _ => returns_ended ht
  | some number =>
      have hs : advanceAwait task c.registry id timeout (.removing (.ok items)) =
          some (.closing number (.ok items), (c.registry.remove id).2, []) := by
        rw [advanceAwait, Registry.remove_eq hf]
      exact returns_advance ht hs fun _ ht _ => returns_closing ht

section

variable (hw : c.registry.wait? n = some w)

include hw

theorem returns_waited
    (ht : c.tasks[task]? = some (.await id timeout (.waiting n (.ended (some items))))) :
    c.Returns task id timeout items := by
  have hs : advanceAwait task c.registry id timeout (.waiting n (.ended (some items))) =
      some (.removing (.ok items), c.registry, []) := by
    simp [advanceAwait, hw, awaitResult]
  exact returns_advance ht hs fun _ ht _ => returns_removing ht

/-- A call that waits takes the next step on its wait. -/
theorem returns_waits {stage stage' : WaitStage α}
    (ht : c.tasks[task]? = some (.await id timeout (.waiting n stage)))
    (hs : stage.advance task w = some (stage', w'))
    (h : ∀ c' : Collector α, c'.registry.wait? n = some w' →
      c'.tasks[task]? = some (.await id timeout (.waiting n stage')) →
      c'.Returns task id timeout items) : c.Returns task id timeout items := by
  have hs' : advanceAwait task c.registry id timeout (.waiting n stage) =
      some (.waiting n stage', c.registry.setWait n w', []) := by
    cases stage with
    | ended items => cases hs
    | _ => simp [advanceAwait, hw, hs]
  exact returns_advance ht hs' fun c' ht' hr => h c' (by simp [hr, hw]) ht'

variable (hc : w.status = .complete)

include hc

/-- A call that looks at a complete wait returns its replies. -/
theorem returns_checking
    (ht : c.tasks[task]? = some (.await id timeout (.waiting n .checking))) :
    c.Returns task id timeout w.collected := by
  have hs : WaitStage.advance task w .checking =
      some (.ended (some w.collected), w.take?.2) := by
    simp [WaitStage.advance, Wait.take?_of_complete hc]
  exact returns_waits hw ht hs fun _ hw ht => returns_waited hw ht

/-- A call that looks once more past its deadline returns the replies as well. -/
theorem returns_lastLook
    (ht : c.tasks[task]? = some (.await id timeout (.waiting n .lastLook))) :
    c.Returns task id timeout w.collected := by
  have hs : WaitStage.advance task w .lastLook =
      some (.ended (some w.collected), w.take?.2) := by
    simp [WaitStage.advance, Wait.take?_of_complete hc]
  exact returns_waits hw ht hs fun _ hw ht => returns_waited hw ht

/-- A call that closes a complete wait past its deadline closes nothing. -/
theorem returns_shutting
    (ht : c.tasks[task]? = some (.await id timeout (.waiting n .closing))) :
    c.Returns task id timeout w.collected := by
  have hs : WaitStage.advance task w .closing = some (.lastLook, w) := by
    simp [WaitStage.advance, Wait.close_of_not_collecting, hc]
  exact returns_waits hw ht hs fun _ hw ht => returns_lastLook hw hc ht

/-- A call that finds a wake-up does not queue. -/
theorem returns_parking (hu : w.wakeUp = true)
    (ht : c.tasks[task]? = some (.await id timeout (.waiting n .parking))) :
    c.Returns task id timeout w.collected := by
  have hs : WaitStage.advance task w .parking = some (.checking, { w with wakeUp := false }) := by
    simp [WaitStage.advance, hu]
  exact returns_waits hw ht hs fun _ hw ht =>
    returns_checking (w := { w with wakeUp := false }) hw hc ht

/-- A call that has been woken looks again. -/
theorem returns_woken (hwoken : task ∈ w.woken)
    (ht : c.tasks[task]? = some (.await id timeout (.waiting n .parked))) :
    c.Returns task id timeout w.collected := by
  have hs : WaitStage.advance task w .parked =
      some (.checking, { w with woken := w.woken.erase task }) := by
    simp [WaitStage.advance, hwoken]
  exact returns_waits hw ht hs fun _ hw ht =>
    returns_checking (w := { w with woken := w.woken.erase task }) hw hc ht

end

/-- The step with which an offer wakes a call. -/
theorem step_wake {waker : Nat} (ht : s.tasks[waker]? = some (.offer id (.waking n)))
    (hw : s.registry.wait? n = some w) :
    s.step (.advance waker) = some (s.put waker (.offer id (.ended true))
      (s.registry.setWait n w.wakeOne) []) := by
  simp [step, advance, ht, advanceOffer, hw]

end Collector

/-- An action of a call, or of an offer that is about to wake one on the wait of a number. -/
def CollectorAction.Brings (s : Collector α) (n task : Nat) (a : CollectorAction α) : Prop :=
  a = .advance task ∨
    ∃ waker id, a = .advance waker ∧ s.tasks[waker]? = some (.offer id (.waking n))

namespace Collector

/-- By its own steps, and those of an offer that is about to wake it, a call on the wait of a number
comes to return some replies. -/
def ReturnsWoken (n task : Nat) (id : CorrelationId) (timeout : Duration) (items : List α)
    (s : Collector α) : Prop :=
  ∃ more s', s.run more = some s' ∧ (∀ a ∈ more, a.Brings s n task) ∧
    s'.tasks[task]? = some (.await id timeout (.ended (.ok items)))

theorem Returns.woken (h : s.Returns task id timeout items) :
    s.ReturnsWoken n task id timeout items := by
  obtain ⟨more, s', hrun, hmore, hend⟩ := h
  exact ⟨more, s', hrun, fun a ha => .inl (hmore a ha), hend⟩

/-- A call that returns replies behind a wake-up returns them when one is owed. -/
theorem WakeOwed.returnsWoken (h : s.WakeOwed n) (hw : s.registry.wait? n = some w)
    (ht : s.tasks[task]? = some (.await id timeout stage))
    (hr : ∀ s' : Collector α, s'.registry.wait? n = some w.wakeOne →
      s'.tasks[task]? = some (.await id timeout stage) → s'.Returns task id timeout items) :
    s.ReturnsWoken n task id timeout items := by
  obtain ⟨waker, t, hwaker, hn⟩ := h
  obtain ⟨id', rfl⟩ := RegistryTask.isWaking_iff.mp hn
  have hne : waker ≠ task := by
    rintro rfl
    simp [ht] at hwaker
  obtain ⟨more, s', hrun, hmore, hend⟩ := hr
    (s.put waker (.offer id' (.ended true)) (s.registry.setWait n w.wakeOne) []) (by simp [hw])
    (by rw [tasks_put, List.getElem?_set_ne hne, ht])
  exact ⟨.advance waker :: more, s',
    foldlM_cons_eq_some.mpr ⟨_, step_wake hwaker hw, hrun⟩,
    List.forall_mem_cons.mpr ⟨.inr ⟨waker, id', rfl, hwaker⟩, fun a ha => .inl (hmore a ha)⟩, hend⟩

/-- A call that is alert on a complete wait returns its replies from where it stands. -/
theorem returnsWoken_of_alert {stage : WaitStage α} (halert : Alert (some (task, stage))
      (s.WakeOwed n) w) (hw : s.registry.wait? n = some w)
    (ht : s.tasks[task]? = some (.await id timeout (.waiting n stage)))
    (hc : w.status = .complete) : s.ReturnsWoken n task id timeout w.collected := by
  have hsame := w.sameReplies_wakeOne
  have hfits := halert.fits rfl
  rw [hc] at hfits
  cases stage with
  | checking => exact (returns_checking hw hc ht).woken
  | parking =>
      rcases halert.parking rfl hc with howed | hu
      · refine howed.returnsWoken hw ht fun s' hw' ht' => ?_
        have hnobody := (List.append_eq_nil_iff.mp halert.lined).1
        have hu : w.wakeOne.wakeUp = true := by rw [Wait.wakeOne_of_nobody hnobody]
        rw [← hsame.collected]
        exact returns_parking hw' (hsame.status.trans hc) hu ht'
      · exact (returns_parking hw hc hu ht).woken
  | parked =>
      rcases halert.parked rfl hc with howed | hwoken
      · refine howed.returnsWoken hw ht fun s' hw' ht' => ?_
        have hwoken : task ∈ w.wakeOne.woken := by
          rw [(Wait.wakeOne_of_line halert.lined).2]
          exact List.mem_singleton.mpr rfl
        rw [← hsame.collected]
        exact returns_woken hw' (hsame.status.trans hc) hwoken ht'
      · exact (returns_woken hw hc hwoken ht).woken
  | closing => exact (returns_shutting hw hc ht).woken
  | lastLook => exact (returns_lastLook hw hc ht).woken
  | ended items => cases items <;> cases hfits

end Collector

/-- **No completion is missed.** A call whose wait has accepted all replies returns them by its own
steps, and those of an offer that is about to wake it, without its deadline. -/
theorem Claimant.unmissed (h : Claimant task n id timeout events s w stage)
    (hfull : (repliesOf n events).length = w.expected) (hs : stage.isGivenUp = false) :
    s.ReturnsWoken n task id timeout (repliesOf n events) := by
  have hcourse := h.course
  cases hcourse with
  | @waiting stage hd =>
      by_cases hdelivered : w.status = .delivered
      · -- the call itself has taken the replies
        have hfits := h.alert.fits rfl
        rw [hdelivered] at hfits
        cases stage with
        | checking | parking | parked | closing => exact absurd rfl hfits
        | lastLook => simp [WaitStage.Fits] at hfits
        | ended items =>
            cases items with
            | none => cases hfits
            | some items =>
                rw [← (h.handed_eq (hd items rfl)).1]
                exact (Collector.returns_waited h.wait h.call).woken
      · have hc := h.status_eq hfull hdelivered
        rw [← (h.books.holds h.wait).collected hdelivered]
        exact Collector.returnsWoken_of_alert h.alert h.wait h.call hc
  | removing hr =>
      obtain rfl := h.result_eq hfull hr
      exact (Collector.returns_removing h.call).woken
  | closing hr =>
      obtain rfl := h.result_eq hfull hr
      exact (Collector.returns_closing h.call).woken
  | ended hr =>
      obtain rfl := h.result_eq hfull hr
      exact (Collector.returns_ended h.call).woken
  | givenUp hg => simp [hs] at hg

/-! ### The call takes few steps -/

/-- The most steps that a call still takes with its wait complete. -/
def AwaitStage.stepsLeft : AwaitStage α → Nat
  | .finding => 9
  | .claiming _ => 8
  | .waiting _ .parking => 7
  | .waiting _ .parked => 6
  | .waiting _ .closing => 5
  | .waiting _ .checking | .waiting _ .lastLook => 4
  | .waiting _ (.ended _) => 3
  | .removing _ | .leaving => 2
  | .closing _ _ | .sweeping _ => 1
  | .ended _ | .gone => 0

/-- A call that has claimed its wait has seven steps left at most. -/
theorem ClaimCourse.stepsLeft_le (h : ClaimCourse task n id timeout events w stage) :
    stage.stepsLeft ≤ 7 := by
  cases h with
  | @waiting stage _ => cases stage <;> simp [AwaitStage.stepsLeft]
  | removing _ | closing _ | ended _ => simp [AwaitStage.stepsLeft]
  | givenUp hg => cases stage <;> simp_all [AwaitStage.isGivenUp, AwaitStage.stepsLeft]

/-- A step of a call leaves it fewer steps, unless it finds its wait incomplete. -/
theorem TaskMoves.stepsLeft_lt {r r' : Registry α} {t' : RegistryTask α}
    {event : Option (ReplyEvent α)} (h : TaskMoves task r (.await id timeout stage) event t' r')
    (hc : ∀ {m v}, stage = .waiting m .checking → r.wait? m = some v → v.status = .complete) :
    ∃ stage', t' = .await id timeout stage' ∧ stage'.stepsLeft < stage.stepsLeft := by
  cases h with
  | waits hw hm =>
      refine ⟨_, rfl, ?_⟩
      cases hm with
      | missed hne => exact absurd (hc rfl hw) hne
      | took _ | resumed _ | queued _ | woken _ | shut | looked =>
          simp [AwaitStage.stepsLeft]
  | awaitFound _ | awaitUnknown _ | claimed _ _ | awaited _ _ | returned _ | removed _ | absent _
  | shut | left _ | leftNothing _ | swept => exact ⟨_, rfl, by simp [AwaitStage.stepsLeft]⟩

/-- A deadline that passes leaves a call fewer steps, and so does giving it up. -/
theorem Collector.Interrupted.stepsLeft_lt {t' : RegistryTask α}
    (h : Collector.Interrupted (.await id timeout stage) t') :
    ∃ stage', t' = .await id timeout stage' ∧ stage'.stepsLeft < stage.stepsLeft := by
  cases h <;> exact ⟨_, rfl, by simp [AwaitStage.stepsLeft]⟩

/-- The action of a task is a step of it, or interrupts it. -/
theorem Collector.Moves.own_cases (h : s.Moves a s') (ha : a.task? = some task)
    {t : RegistryTask α} (ht : s.tasks[task]? = some t) :
    ∃ t', s'.tasks[task]? = some t' ∧
      (TaskMoves task s.registry t (s.event? a) t' s'.registry ∨ Collector.Interrupted t t') := by
  have hset : ∀ u : RegistryTask α, (s.tasks.set task u)[task]? = some u := fun u =>
    List.getElem?_set_self (List.getElem?_eq_some_iff.mp ht).1
  cases h with
  | registered _ | occupied _ | offer | await | unregister => cases ha
  | task hu hm =>
      cases ha
      obtain rfl := Option.some.inj (ht.symm.trans hu)
      exact ⟨_, hset _, .inl hm⟩
  | expired hu _ | cancelled hu _ | forgotten hu =>
      cases ha
      obtain rfl := Option.some.inj (ht.symm.trans hu)
      exact ⟨_, hset _, .inr (by constructor)⟩

namespace Claimant

variable {stage' : AwaitStage α}

/-- A wait that has accepted all its replies keeps them. -/
theorem full_move (h : Claimant task n id timeout events s w stage)
    (hfull : (repliesOf n events).length = w.expected) (hm : s.Moves a s')
    (h' : Claimant task n id timeout (events ++ (s.event? a).toList) s' w' stage') :
    (repliesOf n (events ++ (s.event? a).toList)).length = w'.expected := by
  obtain ⟨v, hv, he⟩ := hm.evolves h.wait
  obtain rfl : w' = v := Option.some.inj (h'.wait.symm.trans hv)
  have hne : w.status ≠ .collecting := fun hc =>
    absurd hfull (Nat.ne_of_lt ((h.books.holds h.wait).length_lt hc))
  rw [repliesOf_append, (he.settled hne).1, List.append_nil, he.expected, hfull]

/-- A move of the call leaves it fewer steps, and a move of another task leaves it as many. -/
theorem stepsLeft_move (h : Claimant task n id timeout events s w stage)
    (hfull : (repliesOf n events).length = w.expected) (hm : s.Moves a s')
    (h' : Claimant task n id timeout (events ++ (s.event? a).toList) s' w' stage') :
    (if a.task? = some task then 1 else 0) + stage'.stepsLeft ≤ stage.stepsLeft := by
  have hchecking : ∀ {m v}, stage = .waiting m .checking → s.registry.wait? m = some v →
      v.status = .complete := by
    intro m v hs hv
    subst hs
    have hcourse := h.course
    cases hcourse with
    | waiting _ =>
        obtain rfl := Option.some.inj (h.wait.symm.trans hv)
        exact h.status_eq hfull (h.alert.fits rfl)
    | givenUp hg => cases hg
  split
  · next ha =>
      obtain ⟨t', ht', hown⟩ := hm.own_cases ha h.call
      obtain ⟨stage'', rfl, hlt⟩ := hown.elim (·.stepsLeft_lt hchecking) (·.stepsLeft_lt)
      cases h'.call.symm.trans ht'
      omega
  · next ha =>
      obtain ⟨t', ht', rfl | ⟨rfl, -⟩ | ⟨rfl | rfl, -⟩⟩ := hm.task_cases h.call
      · cases h'.call.symm.trans ht'
        omega
      all_goals exact absurd rfl ha

/-- **A call takes seven steps at most** once its wait has accepted all replies. -/
theorem brief (h : Claimant task n id timeout events s w stage)
    (hfull : (repliesOf n events).length = w.expected) {more : List (CollectorAction α)}
    (hrun : s.run more = some s') : more.countP (·.task? = some task) ≤ 7 := by
  have hcount : ∃ w' stage', Claimant task n id timeout (events ++ s.history more) s' w' stage' ∧
      (repliesOf n (events ++ s.history more)).length = w'.expected ∧
      more.countP (·.task? = some task) + stage'.stepsLeft ≤ stage.stepsLeft := by
    refine foldlM_induction (P := fun more s' => ∃ w' stage',
      Claimant task n id timeout (events ++ s.history more) s' w' stage' ∧
      (repliesOf n (events ++ s.history more)).length = w'.expected ∧
      more.countP (·.task? = some task) + stage'.stepsLeft ≤ stage.stepsLeft) ?_ ?_ hrun
    · have hnil : events ++ s.history [] = events := List.append_nil events
      exact ⟨w, stage, hnil.symm ▸ h, hnil.symm ▸ hfull, by simp⟩
    · rintro as u b u' hu ⟨v, stage', hv, hvfull, hle⟩ hstep
      rw [Collector.history_concat hu, ← List.append_assoc]
      have hm := Collector.moves_of_step hstep
      obtain ⟨v', stage'', hv'⟩ := hv.move hm
      have hleft := hv.stepsLeft_move hvfull hm hv'
      refine ⟨v', stage'', hv', hv.full_move hvfull hm hv', ?_⟩
      rw [List.countP_append, List.countP_singleton]
      simp only [decide_eq_true_eq]
      omega
  obtain ⟨-, stage', -, -, hle⟩ := hcount
  exact Nat.le_trans (Nat.le_of_add_right_le hle) h.course.stepsLeft_le

end Claimant

/-! ### The main result -/

/-- What is true of a call, behind a history, that has claimed the wait of a number. -/
structure Truthful (task n : Nat) (id : CorrelationId) (timeout : Duration)
    (events : List (ReplyEvent α)) (s : Collector α) (w : Wait α) : Prop where
  /-- Replies that are returned are all that the wait has accepted, in this order, and as many as
  it expects. -/
  replies : ∀ {items}, s.tasks[task]? = some (.await id timeout (.ended (.ok items))) →
    items = repliesOf n events ∧ items.length = w.expected
  /-- An error that is returned is a timeout, which counts the replies that the wait has accepted,
  fewer than it expects. -/
  late : ∀ {e}, s.tasks[task]? = some (.await id timeout (.ended (.error e))) →
    e = .timeout id timeout (repliesOf n events).length w.expected ∧
      (repliesOf n events).length < w.expected
  /-- Behind a timeout the wait never accepts a further reply: offers that hold it are refused. -/
  refuses : ∀ {e more s'}, s.tasks[task]? = some (.await id timeout (.ended (.error e))) →
    s.run more = some s' →
      repliesOf n (events ++ s.history more) = repliesOf n events ∧
        ∀ {offer : Nat} {id' : CorrelationId} {item : α},
          s'.tasks[offer]? = some (.offer id' (.appending n item)) →
            s'.step (.advance offer) = some (s'.put offer (.offer id' (.ended false))
              s'.registry.discard [discardLine id'])
  /-- When the wait has accepted all replies, nothing else than these is returned. -/
  complete : (repliesOf n events).length = w.expected → ∀ {result},
    s.tasks[task]? = some (.await id timeout (.ended result)) → result = .ok (repliesOf n events)
  /-- Then they can be returned from wherever the call stands, without its deadline. -/
  unmissed : (repliesOf n events).length = w.expected → ∀ {stage},
    s.tasks[task]? = some (.await id timeout stage) → stage.isGivenUp = false →
      s.ReturnsWoken n task id timeout (repliesOf n events)
  /-- And whatever happens, the call takes seven further steps at most. -/
  brief : (repliesOf n events).length = w.expected → ∀ {more s'}, s.run more = some s' →
    more.countP (·.task? = some task) ≤ 7

/-- A call on its course is truthful. -/
theorem Claimant.truthful (h : Claimant task n id timeout events s w stage) :
    Truthful task n id timeout events s w := by
  have hstage : ∀ {stage' : AwaitStage α}, s.tasks[task]? = some (.await id timeout stage') →
      Claimant task n id timeout events s w stage' := by
    intro stage' ht
    cases h.call.symm.trans ht
    exact h
  have herror : ∀ {e}, s.tasks[task]? = some (.await id timeout (.ended (.error e))) →
      e = .timeout id timeout (repliesOf n events).length w.expected ∧ w.status = .closed := by
    intro e ht
    rcases (hstage ht).ended_cases with ⟨he, -⟩ | ⟨he, hc⟩
    · cases he
    · exact ⟨Except.error.inj he, hc⟩
  constructor
  case replies =>
    intro items ht
    rcases (hstage ht).ended_cases with ⟨hi, hlen⟩ | ⟨hi, -⟩
    · cases hi
      exact ⟨rfl, hlen⟩
    · cases hi
  case late =>
    intro e ht
    obtain ⟨he, hc⟩ := herror ht
    exact ⟨he, h.length_lt hc⟩
  case refuses =>
    intro e more s' ht hrun
    have hc := (herror ht).2
    obtain ⟨w', hw', hc'⟩ := Collector.closed_of_run hrun ⟨w, h.wait, hc⟩
    have hnone := Collector.acceptances_of_run hrun ⟨w, h.wait, by simp [hc]⟩
    refine ⟨?_, fun hoffer => Collector.step_refused hoffer hw' hc'⟩
    rw [repliesOf_append, repliesOf, repliesOf, hnone, List.map_nil, List.append_nil]
  case complete =>
    intro hfull result ht
    rcases (hstage ht).ended_cases with ⟨hr, -⟩ | ⟨-, hc⟩
    · exact hr
    · exact absurd hfull (Nat.ne_of_lt (h.length_lt hc))
  case unmissed => exact fun hfull _ ht hs => (hstage ht).unmissed hfull hs
  case brief => exact fun hfull _ _ hrun => h.brief hfull hrun

/-- **Timeouts are truthful, and no completion is missed**, whatever happens before and behind the
claim of a call on its wait. -/
theorem timeouts_are_truthful {before after : List (CollectorAction α)} {s₁ : Collector α}
    (hbefore : Collector.empty.run before = some s₁)
    (hclaim : s₁.tasks[task]? = some (.await id timeout (.waiting n .checking)))
    (hafter : s₁.run after = some s) :
    ∃ w, s.registry.wait? n = some w ∧
      Truthful task n id timeout (Collector.empty.history (before ++ after)) s w := by
  obtain ⟨w, stage, h⟩ := claimant_of_run hbefore hclaim hafter
  exact ⟨w, h.wait, h.truthful⟩

/-- A call claims a wait for two replies. -/
def claimForTwo : List (CollectorAction Nat) :=
  [.register 7 2, .offer 7 10, .offer 7 20, .await 7 (.ofSeconds 1), .advance 2, .advance 2]

/-- The second reply is accepted when the deadline of the call has passed, before it closes the
wait. -/
def lastReplyPastDeadline : List (CollectorAction Nat) :=
  [.advance 0, .advance 0, .advance 1, .advance 2, .advance 2, .expire 2, .advance 1, .advance 2,
    .advance 2, .advance 1, .advance 2, .advance 2, .advance 2]

/-- The call returns both replies. -/
theorem timeouts_are_truthful_past_deadline : ∃ s₁ s,
    Collector.empty.run claimForTwo = some s₁ ∧
    s₁.tasks[2]? = some (.await 7 (.ofSeconds 1) (.waiting 0 .checking)) ∧
    s₁.run lastReplyPastDeadline = some s ∧
    s.tasks[2]? = some (.await 7 (.ofSeconds 1) (.ended (.ok [10, 20]))) ∧
    ∃ w, s.registry.wait? 0 = some w ∧ Truthful 2 0 7 (.ofSeconds 1)
      (Collector.empty.history (claimForTwo ++ lastReplyPastDeadline)) s w :=
  ⟨_, _, rfl, rfl, rfl, rfl, timeouts_are_truthful rfl rfl rfl⟩

/-- With its id unregistered between the two replies, the call returns a timeout that counts one of
them, and the other is refused. -/
example : (Collector.empty.run (claimForTwo ++ [.advance 0, .advance 0, .advance 1, .unregister 7,
      .advance 3, .advance 3, .advance 1, .advance 2, .advance 2, .expire 2, .advance 2, .advance 2,
      .advance 2, .advance 2])).map (fun s => (s.tasks[2]?, s.tasks[1]?)) =
    some (some (.await 7 (.ofSeconds 1) (.ended (.error (.timeout 7 (.ofSeconds 1) 1 2)))),
      some (.offer 7 (.ended false))) :=
  rfl

end ScatterGather
