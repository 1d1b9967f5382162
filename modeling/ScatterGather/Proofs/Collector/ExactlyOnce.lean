import Mathlib.Data.List.Nodup
import Mathlib.Data.List.Pairwise
import ScatterGather.Proofs.Collector.Ledger
import ScatterGather.Proofs.Collector.Owners

/-!
# Replies are collected exactly once

The main result about collectors, `collected_exactly_once`: behind every run, whatever its tasks
and however their steps are interleaved,

* an accepted reply is in one wait, the one that the lookup of its offer found, and every list that
  is returned is all that one wait has accepted, complete and in the order of acceptance
  (`CollectedOnce`);
* an offer is counted as discarded exactly when it returns `false`, and touches no wait then
  (`OffersCounted`);
* a wait that is complete or closed accepts nothing any more, and neither a second registration nor
  a second call that waits disturbs it (`Settled`, `Exclusive`).

The first is read off the books (`Ledger`), the others off the moves.
-/

namespace ScatterGather

variable {α : Type}

/-! ### What the story of a task tells -/

/-- The task whose reply was accepted. -/
def ReplyEvent.acceptedTask : ReplyEvent α → Option Nat
  | accepted task _ _ _ => some task
  | _ => none

namespace Story

variable {task n : Nat} {t : Option (RegistryTask α)} {events : List (ReplyEvent α)}
  {id : CorrelationId} {item : α}

/-- The whole story of an offer whose reply was accepted. -/
theorem of_accepted (h : Story task t events) (he : .accepted task id n item ∈ events) :
    events = [.offered task id item, .found task id n, .accepted task id n item] := by
  cases h with
  | waking | accepted =>
      obtain ⟨rfl, rfl, rfl⟩ := by simpa using he
      rfl
  | unborn | finding | appending | unknown | refused | empty _ _ | handed _ => simp at he

/-- The whole story of a call that was handed replies. -/
theorem of_delivered (h : Story task t events) {items : List α}
    (he : .delivered task id n items ∈ events) : events = [.delivered task id n items] := by
  cases h with
  | handed _ =>
      obtain ⟨rfl, rfl, rfl⟩ := by simpa using he
      rfl
  | unborn | finding | appending | waking | accepted | unknown | refused | empty _ _ =>
      simp at he

/-- An offer finds one wait. -/
theorem found_unique (h : Story task t events) {id' : CorrelationId} {m : Nat}
    (he : .found task id n ∈ events) (he' : .found task id' m ∈ events) : id = id' ∧ n = m := by
  cases h with
  | appending | waking | accepted | refused =>
      obtain ⟨rfl, rfl⟩ := by simpa using he
      obtain ⟨rfl, rfl⟩ := by simpa using he'
      exact ⟨rfl, rfl⟩
  | unborn | finding | unknown | empty _ _ | handed _ => simp at he

/-- An offer is accepted once at most. -/
theorem countP_accepted_le (h : Story task t events) :
    events.countP (fun e => e.acceptedTask == some task) ≤ 1 := by
  cases h <;> simp [ReplyEvent.acceptedTask]

/-- An offer that has returned `true` was accepted and never refused. -/
theorem of_ended_true (h : Story task (some (.offer id (.ended true))) events) :
    (∃ n item, .accepted task id n item ∈ events) ∧ events.countP ReplyEvent.isRefused = 0 := by
  cases h with
  | @accepted _ n item => exact ⟨⟨n, item, by simp⟩, by simp [ReplyEvent.isRefused]⟩
  | empty ho _ => cases ho

/-- An offer that has returned `false` was refused once and never accepted. -/
theorem of_ended_false (h : Story task (some (.offer id (.ended false))) events) :
    (∀ id' n item, .accepted task id' n item ∉ events) ∧
      events.countP ReplyEvent.isRefused = 1 := by
  cases h with
  | unknown | refused => simp [ReplyEvent.isRefused]
  | empty ho _ => cases ho

/-- An offer that is about to wake a call has been accepted. -/
theorem of_waking (h : Story task (some (.offer id (.waking n))) events) :
    ∃ item, .accepted task id n item ∈ events := by
  cases h with
  | @waking _ _ item => exact ⟨item, by simp⟩
  | empty ho _ => cases ho

/-- A call that has replies was handed them. -/
theorem of_replies {timeout : Duration} {stage : AwaitStage α} {items : List α}
    (h : Story task (some (.await id timeout stage)) events)
    (hr : (RegistryTask.await id timeout stage).replies? = some items) :
    ∃ n, events = [.delivered task id n items] := by
  cases h with
  | empty _ h => simp [hr] at h
  | @handed _ _ _ n _ h =>
      obtain rfl := Option.some.inj (hr.symm.trans h)
      exact ⟨n, rfl⟩

end Story

/-! ### What has been collected -/

/-- What is true of a history and its state when replies are collected exactly once. -/
structure CollectedOnce (events : List (ReplyEvent α)) (s : Collector α) : Prop where
  /-- A wait accepts replies of offers whose lookup has found it. -/
  looked_up : ∀ {task id n item}, .accepted task id n item ∈ events →
    .offered task id item ∈ events ∧ .found task id n ∈ events
  /-- The lookup of an offer finds one wait. -/
  found_once : ∀ {task id id' n m}, .found task id n ∈ events → .found task id' m ∈ events → n = m
  /-- No offer is accepted twice, by one wait or by two. -/
  accepted_once : (events.filterMap ReplyEvent.acceptedTask).Nodup
  /-- A list that is returned is all that one wait has accepted under the id, in the order of
  acceptance, and as many replies as the wait expects. -/
  returned : ∀ {task : Nat} {id : CorrelationId} {timeout : Duration} {items : List α},
    s.tasks[task]? = some (.await id timeout (.ended (.ok items))) →
      ∃ n w, .delivered task id n items ∈ events ∧ s.registry.wait? n = some w ∧
        items = (acceptances n events).map Prod.snd ∧ items.length = w.expected ∧
        ∀ {task' id' item}, .accepted task' id' n item ∈ events → id' = id
  /-- A call takes from one wait, and a wait is taken from by one call. -/
  taken_once : ∀ {task task' id id' n m items items'},
    .delivered task id n items ∈ events → .delivered task' id' m items' ∈ events →
      (task = task' ↔ n = m)
  /-- The lists of two waits have no offer in common. -/
  disjoint : ∀ {n m}, n ≠ m →
    ((acceptances n events).map Prod.fst).Disjoint ((acceptances m events).map Prod.fst)
  /-- No wait accepts more replies than it expects. -/
  bounded : ∀ {n w}, s.registry.wait? n = some w → (acceptances n events).length ≤ w.expected
  /-- All replies that were refused have been counted, and no others. -/
  counted : s.registry.discarded = UInt64.ofNat (events.countP ReplyEvent.isRefused)

/-- Two elements that give the same value are one, where no value is given twice. -/
theorem eq_of_nodup_filterMap {β γ : Type} {f : β → Option γ} {l : List β}
    (h : (l.filterMap f).Nodup) {x y : β} {c : γ} (hx : x ∈ l) (hy : y ∈ l) (hfx : f x = some c)
    (hfy : f y = some c) : x = y := by
  by_contra hne
  have : Std.Symm fun x y : β => ∀ b, f x = some b → ∀ b', f y = some b' → b ≠ b' :=
    ⟨fun _ _ h b hb b' hb' => (h b' hb' b hb).symm⟩
  exact (List.pairwise_filterMap.mp h).forall hx hy hne c hfx c hfy rfl

/-- An acceptance of a wait is an event. -/
theorem mem_acceptances {task n : Nat} {item : α} {events : List (ReplyEvent α)} :
    (task, item) ∈ acceptances n events ↔ ∃ id, .accepted task id n item ∈ events := by
  simp only [acceptances, List.mem_filterMap, ReplyEvent.acceptedBy_eq_some]
  constructor
  · rintro ⟨e, he, id, rfl⟩
    exact ⟨id, he⟩
  · rintro ⟨id, h⟩
    exact ⟨_, h, id, rfl⟩

namespace Ledger

variable {events : List (ReplyEvent α)} {s : Collector α} {task n : Nat} {id : CorrelationId}
  {item : α}

/-- The whole story of an offer whose reply was accepted. -/
theorem eventsOf_accepted (hL : Ledger events s) (he : .accepted task id n item ∈ events) :
    eventsOf task events =
      [.offered task id item, .found task id n, .accepted task id n item] :=
  (hL.story task).of_accepted (mem_eventsOf.mpr ⟨he, rfl⟩)

/-- The whole story of a call that was handed replies. -/
theorem eventsOf_delivered (hL : Ledger events s) {items : List α}
    (he : .delivered task id n items ∈ events) :
    eventsOf task events = [.delivered task id n items] :=
  (hL.story task).of_delivered (mem_eventsOf.mpr ⟨he, rfl⟩)

/-- No offer is accepted twice. -/
theorem nodup_acceptedTask (hL : Ledger events s) :
    (events.filterMap ReplyEvent.acceptedTask).Nodup := by
  apply List.nodup_iff_count_le_one.mpr
  intro task
  have hown : ∀ e : ReplyEvent α, e.acceptedTask = some task → e.task = task := by
    intro e he
    cases e <;> cases he
    rfl
  calc (events.filterMap ReplyEvent.acceptedTask).count task
      = events.countP (fun e => e.acceptedTask == some task) := List.count_filterMap
    _ = (eventsOf task events).countP (fun e => e.acceptedTask == some task) := by
        rw [eventsOf, List.countP_filter]
        apply List.countP_congr
        intro e _
        simpa using fun he => hown e he
    _ ≤ 1 := (hL.story task).countP_accepted_le

/-- What the books say about collected replies. -/
theorem collectedOnce {owners : List CorrelationId} (hL : Ledger events s)
    (hO : Owned owners events s) : CollectedOnce events s where
  looked_up {task _ _ _} he := by
    have hsub : ∀ e ∈ eventsOf task events, e ∈ events := fun e he => (mem_eventsOf.mp he).1
    rw [hL.eventsOf_accepted he] at hsub
    exact ⟨hsub _ (by simp), hsub _ (by simp)⟩
  found_once he he' :=
    ((hL.story _).found_unique (mem_eventsOf.mpr ⟨he, rfl⟩) (mem_eventsOf.mpr ⟨he', rfl⟩)).2
  accepted_once := hL.nodup_acceptedTask
  returned {task id _ items} ht := by
    obtain ⟨n, hes⟩ := (ht ▸ hL.story task).of_replies rfl
    have he : ReplyEvent.delivered task id n items ∈ events :=
      (mem_eventsOf.mp (hes ▸ List.mem_singleton.mpr rfl)).1
    obtain ⟨w, hw, hd, rfl⟩ := hL.handed he
    refine ⟨n, w, he, hw, rfl, ?_, ?_⟩
    · exact (hL.holds hw).isComplete_iff.mp (by simp [Wait.isComplete, hd])
    · intro _ _ _ ha
      exact Option.some.inj ((hO.event ha rfl).symm.trans (hO.event he rfl))
  taken_once {task task' id id' n m items items'} he he' := by
    constructor
    · rintro rfl
      have := (hL.eventsOf_delivered he).symm.trans (hL.eventsOf_delivered he')
      simp_all
    · rintro rfl
      have := eq_of_nodup_filterMap hL.handed_once he he' rfl rfl
      simp_all
  disjoint {n m} hne := by
    intro task hn hm
    obtain ⟨⟨task, item⟩, hin, rfl⟩ := List.mem_map.mp hn
    obtain ⟨⟨task', item'⟩, him, heq⟩ := List.mem_map.mp hm
    obtain rfl : task' = task := heq
    obtain ⟨id, he⟩ := mem_acceptances.mp hin
    obtain ⟨id', he'⟩ := mem_acceptances.mp him
    have := (hL.eventsOf_accepted he).symm.trans (hL.eventsOf_accepted he')
    simp_all
  bounded hw := by
    rw [← List.length_map Prod.snd]
    exact (hL.holds hw).length_le
  counted := hL.discarded

end Ledger

/-! ### What a run keeps -/

namespace Collector

variable {s s' : Collector α} {task n : Nat} {t : RegistryTask α}

/-- A task stays what it is along a run. -/
theorem task_of_run {more : List (CollectorAction α)} (h : s.run more = some s')
    (ht : s.tasks[task]? = some t) :
    ∃ t', s'.tasks[task]? = some t' ∧ t'.isOffer = t.isOffer ∧ t'.id = t.id := by
  refine foldlM_invariant
    (P := fun s' => ∃ t', s'.tasks[task]? = some t' ∧ t'.isOffer = t.isOffer ∧ t'.id = t.id)
    ?_ ⟨t, ht, rfl, rfl⟩ h
  rintro u a u' ⟨v, hv, ho, hid⟩ hstep
  obtain ⟨v', hv', ho', hid'⟩ := (moves_of_step hstep).task_kept hv
  exact ⟨v', hv', ho'.trans ho, hid'.trans hid⟩

/-- A wait stays claimed along a run. -/
theorem claimed_of_run {more : List (CollectorAction α)} (h : s.run more = some s')
    (hc : ∃ w, s.registry.wait? n = some w ∧ w.claimed = true) :
    ∃ w, s'.registry.wait? n = some w ∧ w.claimed = true := by
  refine foldlM_invariant
    (P := fun s' : Collector α => ∃ w, s'.registry.wait? n = some w ∧ w.claimed = true) ?_ hc h
  rintro u a u' ⟨w, hw, hwc⟩ hstep
  obtain ⟨w', hw', he⟩ := (moves_of_step hstep).evolves hw
  exact ⟨w', hw', he.claimed hwc⟩

/-- A wait that does not collect accepts nothing along a run. -/
theorem acceptances_of_run {more : List (CollectorAction α)} (h : s.run more = some s')
    (hc : ∃ w, s.registry.wait? n = some w ∧ w.status ≠ .collecting) :
    acceptances n (s.history more) = [] := by
  refine (foldlM_induction (P := fun more s' => acceptances n (s.history more) = [] ∧
    ∃ w, s'.registry.wait? n = some w ∧ w.status ≠ .collecting) ⟨rfl, hc⟩ ?_ h).1
  rintro as u a u' hrun ⟨hnil, w, hw, hs⟩ hstep
  obtain ⟨w', hw', he⟩ := (moves_of_step hstep).evolves hw
  obtain ⟨he, hs'⟩ := he.settled hs
  refine ⟨?_, w', hw', hs'⟩
  rw [history_concat hrun, acceptances_append, hnil, List.map_eq_nil_iff.mp he, List.append_nil]

end Collector

/-! ### Which offers count as discarded -/

/-- A run from an unused registry to `s` in which a task takes a step from `s₁` to `s₂`. -/
def StepOf (task : Nat) (actions : List (CollectorAction α)) (s s₁ s₂ : Collector α) : Prop :=
  ∃ before after, actions = before ++ .advance task :: after ∧
    Collector.empty.run before = some s₁ ∧ s₁.step (.advance task) = some s₂ ∧
    s₂.run after = some s

/-- Offers that have returned are counted as they should be. -/
structure OffersCounted (actions : List (CollectorAction α)) (s : Collector α) : Prop where
  /-- An offer that returned `true` was accepted, and no step of it counted a reply. -/
  kept : ∀ {task : Nat} {id : CorrelationId}, s.tasks[task]? = some (.offer id (.ended true)) →
    (∃ n item, .accepted task id n item ∈ Collector.empty.history actions) ∧
      ∀ {s₁ s₂}, StepOf task actions s s₁ s₂ → s₂.registry.discarded = s₁.registry.discarded
  /-- An offer that returned `false` was refused once and never accepted. Its steps leave the
  registry alone, but for the refusal, which counts one reply. -/
  refused : ∀ {task : Nat} {id : CorrelationId}, s.tasks[task]? = some (.offer id (.ended false)) →
    (∀ id' n item, .accepted task id' n item ∉ Collector.empty.history actions) ∧
      (eventsOf task (Collector.empty.history actions)).countP ReplyEvent.isRefused = 1 ∧
      ∀ {s₁ s₂}, StepOf task actions s s₁ s₂ →
        s₂.registry = if (s₁.event? (.advance task)).any ReplyEvent.isRefused then
          s₁.registry.discard else s₁.registry

namespace StepOf

variable {task : Nat} {actions : List (CollectorAction α)} {s s₁ s₂ : Collector α}

/-- What the task knew before its step, and what the step gave, is in the history. -/
theorem mem_history (h : StepOf task actions s s₁ s₂) :
    ∃ events, Ledger events s₁ ∧
      ∀ e ∈ events ++ (s₁.event? (.advance task)).toList, e ∈ Collector.empty.history actions := by
  obtain ⟨before, after, rfl, hpre, hstep, -⟩ := h
  refine ⟨_, ledger_of_run hpre, ?_⟩
  intro e he
  rw [show before ++ .advance task :: after = before ++ [.advance task] ++ after by simp,
    Collector.history_append (foldlM_concat_eq_some.mpr ⟨s₁, hpre, hstep⟩),
    Collector.history_concat hpre]
  exact List.mem_append_left _ he

/-- The step is a move of the task, which is still on its way to what it is in the end. -/
theorem move (h : StepOf task actions s s₁ s₂) {t : RegistryTask α} (ht : s.tasks[task]? = some t) :
    ∃ t₁ t₂, s₁.tasks[task]? = some t₁ ∧ t₁.isOffer = t.isOffer ∧
      TaskMoves task s₁.registry t₁ (s₁.event? (.advance task)) t₂ s₂.registry := by
  obtain ⟨before, after, -, -, hstep, hafter⟩ := h
  obtain ⟨t₁, ht₁, -⟩ := Option.bind_eq_some_iff.mp hstep
  obtain ⟨t₂, ht₂, hm⟩ := Collector.taskMoves_of_step hstep ht₁
  obtain ⟨t', ht', ho, -⟩ := Collector.task_of_run hafter ht₂
  obtain rfl : t = t' := Option.some.inj (ht.symm.trans ht')
  exact ⟨t₁, t₂, ht₁, hm.isOffer_eq.symm.trans ho.symm, hm⟩

end StepOf

/-- A step of an offer leaves the registry alone, refuses the reply, accepts it or wakes a call. -/
theorem TaskMoves.registry_of_offer {task : Nat} {r r' : Registry α} {t t' : RegistryTask α}
    {event : Option (ReplyEvent α)} (h : TaskMoves task r t event t' r')
    (ho : t.isOffer = true) :
    event.any ReplyEvent.isRefused = true ∧ r' = r.discard ∨
      event.any ReplyEvent.isRefused = false ∧ r' = r ∨
      (∃ id n item, event = some (.accepted task id n item)) ∨
      ∃ id n, t = .offer id (.waking n) := by
  cases h with
  | unknown _ | refused _ _ => exact .inl ⟨rfl, rfl⟩
  | found _ => exact .inr (.inl ⟨rfl, rfl⟩)
  | accepted _ _ => exact .inr (.inr (.inl ⟨_, _, _, rfl⟩))
  | woke _ => exact .inr (.inr (.inr ⟨_, _, rfl⟩))
  | _ => cases ho

/-- An offer counts as discarded exactly when it returns `false`. -/
theorem offersCounted_of_run {actions : List (CollectorAction α)} {s : Collector α}
    (h : Collector.empty.run actions = some s) : OffersCounted actions s where
  kept {task id} ht := by
    have hL := ledger_of_run h
    obtain ⟨⟨n, item, ha⟩, hr⟩ := (ht ▸ hL.story task).of_ended_true
    refine ⟨⟨n, item, (mem_eventsOf.mp ha).1⟩, ?_⟩
    intro s₁ s₂ hs
    obtain ⟨t₁, t₂, ht₁, -, hm⟩ := hs.move ht
    obtain ⟨events, -, hmem⟩ := hs.mem_history
    rw [hm.discarded]
    cases he : s₁.event? (.advance task) with
    | none => simp
    | some e =>
        have hin := hmem e (by simp [he])
        have hr' := List.countP_eq_zero.mp hr e (mem_eventsOf.mpr ⟨hin, hm.event_task e he⟩)
        simp [hr']
  refused {task id} ht := by
    have hL := ledger_of_run h
    obtain ⟨ha, hr⟩ := (ht ▸ hL.story task).of_ended_false
    have ha' : ∀ id n item, ReplyEvent.accepted task id n item ∉ Collector.empty.history actions :=
      fun id n item hin => by
        have hin := mem_eventsOf.mpr ⟨hin, rfl⟩
        exact ha id n item hin
    refine ⟨ha', hr, ?_⟩
    intro s₁ s₂ hs
    obtain ⟨t₁, t₂, ht₁, ho, hm⟩ := hs.move ht
    obtain ⟨events, hL₁, hmem⟩ := hs.mem_history
    rcases hm.registry_of_offer ho with ⟨he, hr⟩ | ⟨he, hr⟩ | ⟨id', n, item, he⟩ | ⟨id', n, rfl⟩
    · rw [if_pos he, hr]
    · rw [if_neg (by simp [he]), hr]
    · exact absurd (hmem _ (by simp [he])) (ha' id' n item)
    · obtain ⟨item, hin⟩ := (ht₁ ▸ hL₁.story task).of_waking
      exact absurd (hmem _ (List.mem_append_left _ (mem_eventsOf.mp hin).1)) (ha' id' n item)

/-! ### What nobody can disturb -/

/-- The number of the wait that the next step of a task closes. -/
def RegistryTask.closes? : RegistryTask α → Option Nat
  | .await _ _ (.waiting number .closing) | .await _ _ (.closing number _)
  | .await _ _ (.sweeping number) | .unregister _ (.closing number) => some number
  | _ => none

/-- Waits that are complete or closed are left alone for good. -/
structure Settled (s : Collector α) : Prop where
  /-- A wait that does not collect any more accepts nothing, whatever happens. -/
  accepts_nothing : ∀ {n w more s'}, s.registry.wait? n = some w → w.status ≠ .collecting →
    s.run more = some s' → acceptances n (s.history more) = []
  /-- Nor does a wait from the moment at which a task closes it. -/
  closed : ∀ {task n : Nat} {t : RegistryTask α} {more s' s''}, s.tasks[task]? = some t →
    t.closes? = some n → s.step (.advance task) = some s' → s'.run more = some s'' →
      acceptances n (s'.history more) = []

/-- A wait belongs to its registration and to the call that waits on it. -/
structure Exclusive (s : Collector α) : Prop where
  /-- A second registration of an id fails and changes nothing. -/
  register : ∀ {id n} (expected : Nat), s.registry.find? id = some n →
    s.registry.register id expected = (.error (.invalidState (.waitExists id)), s.registry) ∧
      s.step (.register id expected) = some s
  /-- A second call that waits on an id can only fail, and its steps change nothing but itself. -/
  await : ∀ {waiter late n : Nat} {id id' : CorrelationId} {timeout timeout' : Duration}
    {stage : WaitStage α}, s.tasks[waiter]? = some (.await id' timeout' (.waiting n stage)) →
    s.registry.find? id = some n → s.tasks[late]? = some (.await id timeout .finding) →
      s.step (.advance late) = some (s.put late (.await id timeout (.claiming n)) s.registry []) ∧
        ∀ {more s'},
          (s.put late (.await id timeout (.claiming n)) s.registry []).run more = some s' →
            s'.tasks[late]? = some (.await id timeout (.claiming n)) ∧
                s'.step (.advance late) = some (s'.put late
                  (.await id timeout (.ended (.error (.invalidState (.alreadyAwaited id)))))
                  s'.registry []) ∨
              s'.tasks[late]? =
                some (.await id timeout (.ended (.error (.invalidState (.alreadyAwaited id)))))

/-- A step that closes a wait leaves it settled. -/
theorem TaskMoves.closed {task n : Nat} {r r' : Registry α} {t t' : RegistryTask α}
    {event : Option (ReplyEvent α)} {w : Wait α} (h : TaskMoves task r t event t' r')
    (hc : t.closes? = some n) (hw : r.wait? n = some w) :
    ∃ w', r'.wait? n = some w' ∧ w'.status ≠ .collecting := by
  cases h with
  | shut | swept | unregisterShut =>
      cases hc
      exact ⟨w.close, by simp [hw], w.close_status_ne⟩
  | @waits _ _ _ stage _ _ v _ hv hm =>
      cases hm with
      | shut =>
          cases hc
          exact ⟨v.close, by simp [hv], v.close_status_ne⟩
      | took _ | missed _ | resumed _ | queued _ | woken _ | looked => cases hc
  | _ => cases hc

/-- Waits that are complete or closed are left alone behind every run. -/
theorem settled_of_run {actions : List (CollectorAction α)} {s : Collector α}
    (h : Collector.empty.run actions = some s) : Settled s where
  accepts_nothing hw hs hrun := Collector.acceptances_of_run hrun ⟨_, hw, hs⟩
  closed {task n t _ s' _} ht hc hstep hrun := by
    have hO := owned_of_run h
    have hn : t.number? = some n := by
      unfold RegistryTask.closes? at hc
      split at hc <;> cases hc <;> rfl
    obtain ⟨w, hw⟩ : ∃ w, s.registry.wait? n = some w := by
      have hlt := (List.getElem?_eq_some_iff.mp (hO.task ht hn)).1
      exact ⟨_, List.getElem?_eq_getElem (hO.length_eq ▸ hlt)⟩
    obtain ⟨t', -, hm⟩ := Collector.taskMoves_of_step hstep ht
    exact Collector.acceptances_of_run hrun (hm.closed hc hw)

/-- A call that finds its wait claimed fails. -/
theorem Collector.step_claimed {s : Collector α} {task n : Nat} {id : CorrelationId}
    {timeout : Duration} {w : Wait α} (ht : s.tasks[task]? = some (.await id timeout (.claiming n)))
    (hw : s.registry.wait? n = some w) (hc : w.claimed = true) :
    s.step (.advance task) = some (s.put task
      (.await id timeout (.ended (.error (.invalidState (.alreadyAwaited id)))))
      s.registry []) := by
  simp [step, advance, ht, advanceAwait, hw, Wait.claim, hc]

/-- A call that has found a claimed wait stays there until it fails. -/
theorem Collector.claiming_of_run {s s' : Collector α} {more : List (CollectorAction α)}
    {task n : Nat} {id : CorrelationId} {timeout : Duration} (h : s.run more = some s')
    (ht : s.tasks[task]? = some (.await id timeout (.claiming n)))
    (hc : ∃ w, s.registry.wait? n = some w ∧ w.claimed = true) :
    s'.tasks[task]? = some (.await id timeout (.claiming n)) ∨
      s'.tasks[task]? =
        some (.await id timeout (.ended (.error (.invalidState (.alreadyAwaited id))))) := by
  refine (foldlM_invariant (P := fun s' : Collector α =>
    (s'.tasks[task]? = some (.await id timeout (.claiming n)) ∨ s'.tasks[task]? =
      some (.await id timeout (.ended (.error (.invalidState (.alreadyAwaited id)))))) ∧
    ∃ w, s'.registry.wait? n = some w ∧ w.claimed = true) ?_ ⟨.inl ht, hc⟩ h).1
  rintro u a u' ⟨hu, hc⟩ hstep
  have hrun : u.run [a] = some u' := foldlM_cons_eq_some.mpr ⟨u', hstep, rfl⟩
  refine ⟨?_, claimed_of_run hrun hc⟩
  rcases hu with hu | hu
  · obtain ⟨t', ht', rfl | ⟨-, hm⟩ | ⟨-, hi⟩⟩ := (moves_of_step hstep).task_cases hu
    · exact .inl ht'
    · generalize u.event? a = event, u'.registry = r' at hm
      cases hm with
      | claimed hw hc' =>
          obtain ⟨w, hw', hc⟩ := hc
          obtain rfl := Option.some.inj (hw.symm.trans hw')
          simp [hc] at hc'
      | awaited _ _ => exact .inr ht'
    · cases hi
  · obtain ⟨t', ht', rfl | ⟨-, hm⟩ | ⟨-, hi⟩⟩ := (moves_of_step hstep).task_cases hu
    · exact .inr ht'
    · cases hm
    · cases hi

/-- Nobody can take a wait from its registration or its call behind any run. -/
theorem exclusive_of_run {actions : List (CollectorAction α)} {s : Collector α}
    (h : Collector.empty.run actions = some s) : Exclusive s where
  register expected hf := by
    have hr := Registry.register_of_some hf expected
    exact ⟨hr, by rw [Collector.step, hr]⟩
  await {waiter late n id _ timeout _ _} hw hf hl := by
    refine ⟨by simp [Collector.step, Collector.advance, hl, Collector.advanceAwait, hf], ?_⟩
    intro more s' hrun
    have hclaimed := (ledger_of_run h).claimed hw
    have hlate := Collector.claiming_of_run hrun
      (List.getElem?_set_self (List.getElem?_eq_some_iff.mp hl).1) hclaimed
    obtain ⟨w, hw', hc⟩ := Collector.claimed_of_run hrun hclaimed
    exact hlate.imp_left fun ht => ⟨ht, Collector.step_claimed ht hw' hc⟩

/-! ### The main result -/

/-- **Replies are collected exactly once**, behind every run of every number of tasks. -/
theorem collected_exactly_once {actions : List (CollectorAction α)} {s : Collector α}
    (h : Collector.empty.run actions = some s) :
    CollectedOnce (Collector.empty.history actions) s ∧ OffersCounted actions s ∧ Settled s ∧
      Exclusive s :=
  ⟨(ledger_of_run h).collectedOnce (owned_of_run h), offersCounted_of_run h, settled_of_run h,
    exclusive_of_run h⟩

/-- Three offers race for a wait of two replies. -/
def raceForTwo : List (CollectorAction Nat) :=
  [.register 7 2, .offer 7 10, .offer 7 20, .offer 7 30, .await 7 (.ofSeconds 1), .advance 0,
    .advance 1, .advance 2, .advance 3, .advance 3, .advance 2, .advance 3, .advance 1, .advance 0,
    .advance 3, .advance 1, .advance 3, .advance 3, .advance 3, .advance 3, .advance 3]

/-- The offer that comes last is refused, and the call gets the replies of the others. -/
theorem collected_exactly_once_race : ∃ s, Collector.empty.run raceForTwo = some s ∧
    s.tasks[3]? = some (.await 7 (.ofSeconds 1) (.ended (.ok [30, 20]))) ∧
    s.registry.discarded = 1 ∧
    CollectedOnce (Collector.empty.history raceForTwo) s ∧ OffersCounted raceForTwo s ∧ Settled s ∧
      Exclusive s :=
  ⟨_, rfl, rfl, rfl, collected_exactly_once rfl⟩

end ScatterGather
