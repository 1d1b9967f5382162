import ScatterGather.Proofs.Collector.ExactlyOnce
import ScatterGather.Proofs.Collector.Standing
import ScatterGather.Proofs.Collector.WakeUps

/-!
# Calls that have claimed their wait

What becomes of a call from the moment at which it has claimed its wait, whatever else happens to
the registry: offers come and go, the id is unregistered and registered anew, the deadline passes
at any point. `ClaimCourse` says where such a call stands and what it will return, and every move
keeps it on its course (`Claimant.move`). So it returns all that its wait has accepted, as many
replies as it expects, or a timeout that counts the accepted ones, and then its wait is closed
(`Claimant.ended_cases`).
-/

namespace ScatterGather

variable {α : Type}

/-! ### The course of a call that has claimed its wait -/

section

variable (task n : Nat) (id : CorrelationId) (timeout : Duration)

/-- What a call returns that has claimed the wait of a number: the replies it was handed, or, with
the wait closed, the number of those that the wait has accepted. -/
inductive ClaimResult (events : List (ReplyEvent α)) (w : Wait α) :
    Except ExecutionError (List α) → Prop where
  | handed {items} (h : .delivered task id n items ∈ events) : ClaimResult events w (.ok items)
  | late (h : w.status = .closed) :
    ClaimResult events w (.error (.timeout id timeout (repliesOf n events).length w.expected))

/-- Where a call stands that has claimed the wait of a number. -/
inductive ClaimCourse (events : List (ReplyEvent α)) (w : Wait α) : AwaitStage α → Prop where
  | waiting {stage} (h : ∀ items, stage = .ended (some items) →
      .delivered task id n items ∈ events) : ClaimCourse events w (.waiting n stage)
  | removing {result} (h : ClaimResult task n id timeout events w result) :
    ClaimCourse events w (.removing result)
  | closing {m result} (h : ClaimResult task n id timeout events w result) :
    ClaimCourse events w (.closing m result)
  | ended {result} (h : ClaimResult task n id timeout events w result) :
    ClaimCourse events w (.ended result)
  | givenUp {stage} (h : stage.isGivenUp = true) : ClaimCourse events w stage

/-- A call has claimed the wait of a number, and is on its course behind a history. -/
structure Claimant (events : List (ReplyEvent α)) (s : Collector α) (w : Wait α)
    (stage : AwaitStage α) : Prop where
  books : Ledger events s
  attended : s.Attended
  wait : s.registry.wait? n = some w
  call : s.tasks[task]? = some (.await id timeout stage)
  course : ClaimCourse task n id timeout events w stage

end

variable {task n : Nat} {id : CorrelationId} {timeout : Duration} {events : List (ReplyEvent α)}
  {s s' : Collector α} {w w' : Wait α} {stage : AwaitStage α} {a : CollectorAction α}
  {result : Except ExecutionError (List α)}

/-- What a call is going to return does not change any more. -/
theorem ClaimResult.evolves (h : ClaimResult task n id timeout events w result)
    {new : List (ReplyEvent α)} (he : w.Evolves (repliesOf n new) w') :
    ClaimResult task n id timeout (events ++ new) w' result := by
  cases h with
  | handed h => exact .handed (List.mem_append_left _ h)
  | late hc =>
      have hnone : repliesOf n new = [] := (he.settled (by simp [hc])).1
      have hsame : repliesOf n (events ++ new) = repliesOf n events := by
        rw [repliesOf_append, hnone, List.append_nil]
      rw [← hsame, ← he.expected]
      exact .late (he.keeps_closed hc)

/-- What happens to its wait leaves a call on its course. -/
theorem ClaimCourse.evolves (h : ClaimCourse task n id timeout events w stage)
    {new : List (ReplyEvent α)} (he : w.Evolves (repliesOf n new) w') :
    ClaimCourse task n id timeout (events ++ new) w' stage := by
  cases h with
  | waiting h => exact .waiting fun items hs => List.mem_append_left _ (h items hs)
  | removing h => exact .removing (h.evolves he)
  | closing h => exact .closing (h.evolves he)
  | ended h => exact .ended (h.evolves he)
  | givenUp h => exact .givenUp h

/-- A call that ends on its wait does so with what it takes. -/
theorem WaitMoves.taken_eq {call : Nat} {stage : WaitStage α} {taken items : Option (List α)}
    (h : WaitMoves call w stage taken (.ended items) w') : taken = items := by
  cases h with
  | took _ => rfl
  | looked => rfl

namespace Claimant

/-- A call that waits is alert. -/
theorem alert {stage : WaitStage α}
    (h : Claimant task n id timeout events s w (.waiting n stage)) :
    Alert (some (task, stage)) (s.WakeOwed n) w := by
  obtain ⟨call, hc, halert⟩ := h.attended n w h.wait
  obtain rfl := Collector.call_eq hc h.call (if_pos rfl)
  exact halert

/-- A call that has ended on its wait goes on with what it was handed. Without replies, the wait is
closed, and the call reports how many it has accepted. -/
theorem awaitResult {items : Option (List α)}
    (h : Claimant task n id timeout events s w (.waiting n (.ended items))) :
    ClaimResult task n id timeout events w (Collector.awaitResult id timeout w items).1 := by
  cases items with
  | none =>
      rw [Collector.awaitResult, (h.books.holds h.wait).accepted]
      exact .late (h.alert.fits rfl)
  | some items =>
      have hcourse := h.course
      cases hcourse with
      | waiting hd => exact .handed (hd items rfl)
      | givenUp hg => cases hg

/-- The next step of the call keeps it on its course. -/
theorem own (h : Claimant task n id timeout events s w stage) {t' : RegistryTask α}
    {r : Registry α} {event : Option (ReplyEvent α)}
    (hm : TaskMoves task s.registry (.await id timeout stage) event t' r)
    (he : w.Evolves (repliesOf n event.toList) w') :
    ∃ stage', t' = .await id timeout stage' ∧
      ClaimCourse task n id timeout (events ++ event.toList) w' stage' := by
  have hcourse := h.course
  cases hm with
  | awaitFound _ | awaitUnknown _ | claimed _ _ | awaited _ _ =>
      cases hcourse with
      | givenUp hg => cases hg
  | waits _ hwm =>
      refine ⟨_, rfl, ?_⟩
      cases hcourse with
      | waiting _ =>
          refine .waiting fun items hs => ?_
          subst hs
          obtain rfl := hwm.taken_eq
          simp
      | givenUp hg => cases hg
  | returned hv =>
      refine ⟨_, rfl, ?_⟩
      cases hcourse with
      | waiting _ =>
          obtain rfl := Option.some.inj (h.wait.symm.trans hv)
          exact .removing (h.awaitResult.evolves he)
      | givenUp hg => cases hg
  | removed _ =>
      cases hcourse with
      | removing hr => exact ⟨_, rfl, .closing (hr.evolves he)⟩
      | givenUp hg => cases hg
  | absent _ =>
      cases hcourse with
      | removing hr => exact ⟨_, rfl, .ended (hr.evolves he)⟩
      | givenUp hg => cases hg
  | shut =>
      cases hcourse with
      | closing hr => exact ⟨_, rfl, .ended (hr.evolves he)⟩
      | givenUp hg => cases hg
  | left _ | leftNothing _ | swept => exact ⟨_, rfl, .givenUp rfl⟩

/-- A deadline that passes keeps the call on its course, and so does giving it up. -/
theorem interrupted (h : Claimant task n id timeout events s w stage) {t' : RegistryTask α}
    (hi : Collector.Interrupted (.await id timeout stage) t') (new : List (ReplyEvent α))
    (w' : Wait α) :
    ∃ stage', t' = .await id timeout stage' ∧
      ClaimCourse task n id timeout (events ++ new) w' stage' := by
  have hcourse := h.course
  cases hi with
  | expired =>
      cases hcourse with
      | waiting _ => exact ⟨_, rfl, .waiting nofun⟩
      | givenUp hg => cases hg
  | cancelled => exact ⟨_, rfl, .givenUp rfl⟩
  | forgotten => exact ⟨_, rfl, .givenUp rfl⟩

/-- **Every move keeps a call on its course.** -/
theorem move (h : Claimant task n id timeout events s w stage) (hm : s.Moves a s') :
    ∃ w' stage', Claimant task n id timeout (events ++ (s.event? a).toList) s' w' stage' := by
  obtain ⟨w', hw', he⟩ := hm.evolves h.wait
  have hbooks := h.books.move hm
  have hattended := h.attended.move h.books hm
  obtain ⟨t', ht', rfl | ⟨rfl, htm⟩ | ⟨-, hi⟩⟩ := hm.task_cases h.call
  · exact ⟨w', stage, hbooks, hattended, hw', ht', h.course.evolves he⟩
  · obtain ⟨stage', rfl, hcourse⟩ := h.own htm he
    exact ⟨w', stage', hbooks, hattended, hw', ht', hcourse⟩
  · obtain ⟨stage', rfl, hcourse⟩ := h.interrupted hi (s.event? a).toList w'
    exact ⟨w', stage', hbooks, hattended, hw', ht', hcourse⟩

/-- A call stays on its course along a run. -/
theorem run (h : Claimant task n id timeout events s w stage) {more : List (CollectorAction α)}
    (hrun : s.run more = some s') :
    ∃ w' stage', Claimant task n id timeout (events ++ s.history more) s' w' stage' := by
  refine foldlM_induction (P := fun more s' => ∃ w' stage',
    Claimant task n id timeout (events ++ s.history more) s' w' stage') ?_ ?_ hrun
  · exact ⟨w, stage, by simpa [Collector.history, emitted] using h⟩
  · rintro as u b u' hu ⟨v, stage', hv⟩ hstep
    rw [Collector.history_concat hu, ← List.append_assoc]
    exact hv.move (Collector.moves_of_step hstep)

end Claimant

/-- A call that has claimed its wait is on its course behind every run. -/
theorem claimant_of_run {before after : List (CollectorAction α)} {s₁ : Collector α}
    (hbefore : Collector.empty.run before = some s₁)
    (hclaim : s₁.tasks[task]? = some (.await id timeout (.waiting n .checking)))
    (hafter : s₁.run after = some s) :
    ∃ w stage,
      Claimant task n id timeout (Collector.empty.history (before ++ after)) s w stage := by
  have hbooks := ledger_of_run hbefore
  obtain ⟨w, hw, -⟩ := hbooks.claimed hclaim
  have hcourse : Claimant task n id timeout (Collector.empty.history before) s₁ w
      (.waiting n .checking) :=
    ⟨hbooks, Collector.attended_of_run hbefore, hw, hclaim, .waiting nofun⟩
  rw [Collector.history_append hbefore]
  exact hcourse.run hafter

/-! ### What the call returns -/

namespace Claimant

/-- What a call has been handed is all that its wait has accepted, and as much as it expects. -/
theorem handed_eq (h : Claimant task n id timeout events s w stage) {items : List α}
    (hd : .delivered task id n items ∈ events) :
    items = repliesOf n events ∧ items.length = w.expected := by
  obtain ⟨v, hv, hdelivered, rfl⟩ := h.books.handed hd
  obtain rfl := Option.some.inj (h.wait.symm.trans hv)
  exact ⟨rfl, (h.books.holds hv).isComplete_iff.mp (by simp [Wait.isComplete, hdelivered])⟩

/-- A closed wait has accepted fewer replies than it expects. -/
theorem length_lt (h : Claimant task n id timeout events s w stage) (hc : w.status = .closed) :
    (repliesOf n events).length < w.expected := by
  have hH := h.books.holds h.wait
  apply Nat.lt_of_le_of_ne hH.length_le
  intro hfull
  have := hH.isComplete_iff.mpr hfull
  simp [Wait.isComplete, hc] at this

/-- **What a call returns** is all that its wait has accepted, as many replies as it expects, or a
timeout that counts the accepted ones, with the wait closed. -/
theorem ended_cases (h : Claimant task n id timeout events s w (.ended result)) :
    result = .ok (repliesOf n events) ∧ (repliesOf n events).length = w.expected ∨
      result = .error (.timeout id timeout (repliesOf n events).length w.expected) ∧
        w.status = .closed := by
  have hcourse := h.course
  cases hcourse with
  | givenUp hg => cases hg
  | ended hr =>
      cases hr with
      | handed hd =>
          obtain ⟨rfl, hlen⟩ := h.handed_eq hd
          exact .inl ⟨rfl, hlen⟩
      | late hc => exact .inr ⟨rfl, hc⟩

/-- A wait with all its replies is complete as long as nobody has taken them. -/
theorem status_eq (h : Claimant task n id timeout events s w stage)
    (hfull : (repliesOf n events).length = w.expected) (hne : w.status ≠ .delivered) :
    w.status = .complete := by
  have hcomplete := (h.books.holds h.wait).isComplete_iff.mpr hfull
  simp only [Wait.isComplete, Bool.or_eq_true, decide_eq_true_eq] at hcomplete
  exact hcomplete.resolve_right hne

/-- With all replies accepted a call is going to return them. -/
theorem result_eq (h : Claimant task n id timeout events s w stage)
    (hfull : (repliesOf n events).length = w.expected)
    (hr : ClaimResult task n id timeout events w result) : result = .ok (repliesOf n events) := by
  cases hr with
  | handed hd => rw [(h.handed_eq hd).1]
  | late hc => exact absurd hfull (Nat.ne_of_lt (h.length_lt hc))

end Claimant

/-! ### A closed wait refuses -/

namespace Collector

/-- A closed wait stays closed along a run. -/
theorem closed_of_run {more : List (CollectorAction α)} (h : s.run more = some s')
    (hc : ∃ w, s.registry.wait? n = some w ∧ w.status = .closed) :
    ∃ w, s'.registry.wait? n = some w ∧ w.status = .closed := by
  refine foldlM_invariant
    (P := fun s' : Collector α => ∃ w, s'.registry.wait? n = some w ∧ w.status = .closed) ?_ hc h
  rintro u a u' ⟨w, hw, hwc⟩ hstep
  obtain ⟨w', hw', he⟩ := (moves_of_step hstep).evolves hw
  exact ⟨w', hw', he.keeps_closed hwc⟩

/-- An offer that holds a closed wait is refused and counted. -/
theorem step_refused {offer : Nat} {item : α}
    (ht : s.tasks[offer]? = some (.offer id (.appending n item)))
    (hw : s.registry.wait? n = some w) (hc : w.status = .closed) :
    s.step (.advance offer) = some (s.put offer (.offer id (.ended false)) s.registry.discard
      [discardLine id]) := by
  simp [step, advance, ht, advanceOffer, hw, Wait.append_of_not_collecting, hc]

end Collector

end ScatterGather
