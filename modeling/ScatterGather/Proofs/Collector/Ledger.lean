import ScatterGather.Proofs.Collector.Moves

/-!
# The books of a collector

What a run does to replies can be read off its history alone. `Ledger events s` says that the
history and the state agree: every wait holds exactly the replies that the history says it has
accepted, every task has gone through exactly the events of its stage (`Story`), what has been
handed over is all that its wait has accepted, and the discarded replies are those refused. Every
move keeps this (`Ledger.move`), so it holds behind every run (`ledger_of_run`).
-/

namespace ScatterGather

variable {α : Type}

/-! ### How one move changes one wait -/

namespace Wait

/-- What a move makes of a wait, and the replies that the wait accepts by it. -/
inductive Evolves (w : Wait α) : List α → Wait α → Prop where
  | same {w'} (h : w.SameReplies w') (hc : w.claimed = true → w'.claimed = true) : Evolves w [] w'
  | appended (h : w.status = .collecting) (item : α) : Evolves w [item] (w.append item).2
  | taken : Evolves w [] w.take?.2
  | closed : Evolves w [] w.close

namespace Evolves

variable {w w' : Wait α} {items : List α}

theorem refl (w : Wait α) : w.Evolves [] w := .same (.refl w) id

/-- A wait holds what it held, and what it has accepted since. -/
theorem holds (h : w.Evolves items w') {held : List α} (hw : w.Holds held) :
    w'.Holds (held ++ items) := by
  cases h with
  | same h _ => simpa using hw.same h
  | appended h item => exact hw.append h item
  | taken => simpa using hw.take
  | closed => simpa using hw.close

/-- The number of replies expected never changes. -/
theorem expected (h : w.Evolves items w') : w'.expected = w.expected := by
  cases h with
  | same h _ => exact h.expected
  | appended _ _ | taken | closed => simp

/-- A claim is never given back. -/
theorem claimed (h : w.Evolves items w') (hw : w.claimed = true) : w'.claimed = true := by
  cases h with
  | same _ hc => exact hc hw
  | appended _ _ | taken | closed => simpa using hw

/-- A wait that does not collect accepts nothing and never collects again. -/
theorem settled (h : w.Evolves items w') (hw : w.status ≠ .collecting) :
    items = [] ∧ w'.status ≠ .collecting := by
  cases h with
  | same h _ => exact ⟨rfl, h.status ▸ hw⟩
  | appended h _ => exact absurd h hw
  | taken =>
      refine ⟨rfl, ?_⟩
      rcases w.take?_cases with ⟨_, ht⟩ | ⟨_, ht⟩ <;> simp [ht, hw]
  | closed => exact ⟨rfl, w.close_status_ne⟩

/-- Replies that have been taken are gone for good. -/
theorem delivered (h : w.Evolves items w') (hw : w.status = .delivered) :
    w'.status = .delivered := by
  cases h with
  | same h _ => exact h.status.trans hw
  | appended h _ => simp [hw] at h
  | taken => simp [take?_of_not_complete, hw]
  | closed => simp [close_of_not_collecting, hw]

end Evolves

end Wait

/-- A move of a waiting call changes its wait without a reply coming in. -/
theorem WaitMoves.evolves {call : Nat} {w w' : Wait α} {stage stage' : WaitStage α}
    {taken : Option (List α)} (h : WaitMoves call w stage taken stage' w') : w.Evolves [] w' := by
  cases h with
  | took _ => exact .taken
  | missed _ => exact .refl w
  | resumed _ | queued _ | woken _ => exact .same ⟨rfl, rfl, rfl, rfl⟩ id
  | shut => exact .closed
  | looked => exact .taken

/-- The replies that the wait of a number has accepted, in the order of acceptance. -/
def repliesOf (number : Nat) (events : List (ReplyEvent α)) : List α :=
  (acceptances number events).map Prod.snd

@[simp] theorem acceptances_nil (n : Nat) : acceptances n ([] : List (ReplyEvent α)) = [] := rfl

@[simp] theorem acceptances_cons (n : Nat) (e : ReplyEvent α) (es : List (ReplyEvent α)) :
    acceptances n (e :: es) = (e.acceptedBy n).toList ++ acceptances n es := by
  cases h : e.acceptedBy n <;> simp [acceptances, h]

@[simp] theorem acceptances_append (n : Nat) (es es' : List (ReplyEvent α)) :
    acceptances n (es ++ es') = acceptances n es ++ acceptances n es' :=
  List.filterMap_append

@[simp] theorem repliesOf_append (n : Nat) (es es' : List (ReplyEvent α)) :
    repliesOf n (es ++ es') = repliesOf n es ++ repliesOf n es' := by
  simp [repliesOf]

namespace Registry

variable {r : Registry α} {n number : Nat} {v v' w : Wait α}

/-- Putting a wait in its place changes that wait alone. -/
theorem evolves_setWait {items : List α} (hv : r.wait? number = some v) (he : v.Evolves items v')
    (hw : r.wait? n = some w) :
    ∃ w', (r.setWait number v').wait? n = some w' ∧
      w.Evolves (if number = n then items else []) w' := by
  by_cases h : number = n
  · subst h
    obtain rfl : v = w := Option.some.inj (hv.symm.trans hw)
    exact ⟨v', by simp [hw], by simpa using he⟩
  · exact ⟨w, by simp [h, hw], by simpa [h] using Wait.Evolves.refl w⟩

/-- Closing a wait changes that wait alone. -/
theorem evolves_close (hw : r.wait? n = some w) :
    ∃ w', (r.close number).wait? n = some w' ∧ w.Evolves [] w' := by
  by_cases h : number = n
  · exact ⟨w.close, by simp [h, hw], .closed⟩
  · exact ⟨w, by simp [h, hw], .refl w⟩

end Registry

/-- A move of a task changes every wait in one of the ways a wait can change. -/
theorem TaskMoves.evolves {task n : Nat} {r r' : Registry α} {t t' : RegistryTask α}
    {event : Option (ReplyEvent α)} {w : Wait α} (h : TaskMoves task r t event t' r')
    (hw : r.wait? n = some w) :
    ∃ w', r'.wait? n = some w' ∧ w.Evolves (repliesOf n event.toList) w' := by
  cases h with
  | accepted hv hc =>
      obtain ⟨w', hw', he⟩ := Registry.evolves_setWait hv (.appended hc _) hw
      refine ⟨w', hw', ?_⟩
      rename_i number item _
      by_cases h : number = n <;> simpa [repliesOf, ReplyEvent.acceptedBy, h] using he
  | woke hv =>
      simpa [repliesOf] using Registry.evolves_setWait hv
        (.same (Wait.sameReplies_wakeOne _) (by simp)) hw
  | claimed hv _ =>
      have hrest := Registry.evolves_setWait hv (.same (Wait.sameReplies_claim _) fun _ => rfl) hw
      simpa [repliesOf] using hrest
  | waits hv hm =>
      rename_i taken _ _ _
      have := Registry.evolves_setWait hv hm.evolves hw
      cases taken <;> simpa [repliesOf, ReplyEvent.acceptedBy] using this
  | shut | swept | unregisterShut => exact Registry.evolves_close hw
  | found _ | unknown _ | refused _ _ | awaitFound _ | awaitUnknown _ | awaited _ _
  | returned _ | removed _ | absent _ | left _ | leftNothing _ | unregistered _
  | notRegistered _ => exact ⟨w, by simpa using hw, .refl w⟩

/-- A move of a task makes no new wait. -/
theorem TaskMoves.wait?_eq_none {task n : Nat} {r r' : Registry α} {t t' : RegistryTask α}
    {event : Option (ReplyEvent α)} (h : TaskMoves task r t event t' r')
    (hn : r.wait? n = none) : r'.wait? n = none ∧ repliesOf n event.toList = [] := by
  cases h with
  | @accepted _ number _ _ hv _ =>
      have : number ≠ n := fun h => by simp [h, hn] at hv
      simp [this, hn, repliesOf, ReplyEvent.acceptedBy]
  | @waits _ _ _ _ taken _ _ _ _ hm =>
      cases taken <;> simp [hn, repliesOf, ReplyEvent.acceptedBy]
  | _ => simp [hn, repliesOf, ReplyEvent.acceptedBy]

/-- A move of a collector changes every wait in one of the ways a wait can change. -/
theorem Collector.Moves.evolves {s s' : Collector α} {a : CollectorAction α} {n : Nat} {w : Wait α}
    (h : s.Moves a s') (hw : s.registry.wait? n = some w) :
    ∃ w', s'.registry.wait? n = some w' ∧ w.Evolves (repliesOf n (s.event? a).toList) w' := by
  cases h with
  | registered h =>
      refine ⟨w, ?_, .refl w⟩
      have hn : n ≠ s.registry.waits.length := fun hn => by
        rw [Registry.wait?_eq_none_iff.mpr (Nat.le_of_eq hn.symm)] at hw
        cases hw
      rw [Registry.wait?_enter, if_neg hn, hw]
  | occupied h => exact ⟨w, hw, .refl w⟩
  | offer => exact ⟨w, hw, .refl w⟩
  | await => exact ⟨w, hw, .refl w⟩
  | unregister => exact ⟨w, hw, .refl w⟩
  | task ht hm => exact hm.evolves hw
  | @expired task _ _ _ v _ hv | @cancelled task _ _ _ v _ hv =>
      have he := Registry.evolves_setWait hv
        (.same (Wait.sameReplies_leave v task) (by simp)) hw
      simpa [event?, repliesOf] using he
  | forgotten ht => exact ⟨w, hw, .refl w⟩

/-- A wait that a move makes is new and accepts nothing by it. -/
theorem Collector.Moves.wait?_eq_none {s s' : Collector α} {a : CollectorAction α} {n : Nat}
    (h : s.Moves a s') (hn : s.registry.wait? n = none) :
    repliesOf n (s.event? a).toList = [] ∧
      ∀ w, s'.registry.wait? n = some w → ∃ expected, w = .new expected := by
  cases h with
  | @registered id expected h =>
      refine ⟨rfl, fun w hw => ⟨expected, ?_⟩⟩
      rw [Registry.wait?_enter] at hw
      split at hw
      · exact (Option.some.inj hw).symm
      · simp [hn] at hw
  | task ht hm =>
      obtain ⟨hn', he⟩ := hm.wait?_eq_none hn
      exact ⟨he, fun w hw => by simp [hn'] at hw⟩
  | occupied _ | offer | await | unregister | forgotten _ | expired _ _ | cancelled _ _ =>
      exact ⟨rfl, fun w hw => by simp [hn] at hw⟩

/-! ### The events of one task -/

/-- The replies that a task has been handed. -/
def RegistryTask.replies? : RegistryTask α → Option (List α)
  | .await _ _ (.waiting _ (.ended items)) => items
  | .await _ _ (.removing (.ok items)) | .await _ _ (.closing _ (.ok items))
  | .await _ _ (.ended (.ok items)) => some items
  | _ => none

/-- All events of a task, by where it stands. -/
inductive Story (task : Nat) : Option (RegistryTask α) → List (ReplyEvent α) → Prop where
  | unborn : Story task none []
  | finding {id item} : Story task (some (.offer id (.finding item))) [.offered task id item]
  | appending {id number item} :
    Story task (some (.offer id (.appending number item)))
      [.offered task id item, .found task id number]
  | waking {id number item} :
    Story task (some (.offer id (.waking number)))
      [.offered task id item, .found task id number, .accepted task id number item]
  | accepted {id number item} :
    Story task (some (.offer id (.ended true)))
      [.offered task id item, .found task id number, .accepted task id number item]
  | unknown {id item} :
    Story task (some (.offer id (.ended false))) [.offered task id item, .refused task id item]
  | refused {id number item} :
    Story task (some (.offer id (.ended false)))
      [.offered task id item, .found task id number, .refused task id item]
  | empty {t} (ho : t.isOffer = false) (hr : t.replies? = none) : Story task (some t) []
  | handed {id timeout stage number items}
    (hr : (RegistryTask.await id timeout stage : RegistryTask α).replies? = some items) :
    Story task (some (.await id timeout stage)) [.delivered task id number items]

namespace Story

variable {task : Nat} {events : List (ReplyEvent α)}

/-- A call that goes on with the replies it has been handed keeps its events. -/
theorem await_congr {id : CorrelationId} {timeout : Duration} {stage stage' : AwaitStage α}
    (hs : Story task (some (.await id timeout stage)) events)
    (hr : (RegistryTask.await id timeout stage').replies? =
      (RegistryTask.await id timeout stage).replies?) :
    Story task (some (.await id timeout stage')) events := by
  cases hs with
  | empty _ h => exact .empty rfl (hr.trans h)
  | handed h => exact .handed (hr.trans h)

/-- A removal has no events. -/
theorem unregister_congr {id : CorrelationId} {stage stage' : RemovalStage}
    (hs : Story task (some (.unregister id stage : RegistryTask α)) events) :
    Story task (some (.unregister id stage')) events := by
  cases hs with
  | empty _ _ => exact .empty rfl rfl

/-- A move of a task adds its event to the events of the task. -/
theorem move {r r' : Registry α} {t t' : RegistryTask α} {event : Option (ReplyEvent α)}
    (hs : Story task (some t) events) (h : TaskMoves task r t event t' r') :
    Story task (some t') (events ++ event.toList) := by
  have hnil : events ++ (none : Option (ReplyEvent α)).toList = events := List.append_nil events
  cases h with
  | found _ =>
      cases hs with
      | finding => exact .appending
      | empty ho _ => cases ho
  | unknown _ =>
      cases hs with
      | finding => exact .unknown
      | empty ho _ => cases ho
  | accepted _ _ =>
      cases hs with
      | appending =>
          split
          · exact .waking
          · exact .accepted
      | empty ho _ => cases ho
  | refused _ _ =>
      cases hs with
      | appending => exact .refused
      | empty ho _ => cases ho
  | woke _ =>
      rw [hnil]
      cases hs with
      | waking => exact .accepted
      | empty ho _ => cases ho
  | @waits id timeout number stage taken stage' w w' _ hm =>
      have hr : (RegistryTask.await id timeout (.waiting number stage)).replies? = none := by
        cases hm <;> rfl
      cases hs with
      | empty _ _ =>
          have hr' : (RegistryTask.await id timeout (.waiting number stage')).replies? = taken := by
            cases hm <;> rfl
          cases taken with
          | none => exact .empty rfl hr'
          | some items => exact .handed hr'
      | handed h => simp [hr] at h
  | @returned _ _ _ items _ _ =>
      rw [hnil]
      cases items <;> exact hs.await_congr rfl
  | @removed _ _ result _ _ | @absent _ _ result _ | @shut _ _ _ result =>
      rw [hnil]
      cases result <;> exact hs.await_congr rfl
  | awaitFound _ | awaitUnknown _ | claimed _ _ | awaited _ _ | left _ | leftNothing _ | swept =>
      rw [hnil]
      exact hs.await_congr rfl
  | unregistered _ | notRegistered _ | unregisterShut =>
      rw [hnil]
      exact hs.unregister_congr

end Story

/-! ### Facts about single moves -/

namespace TaskMoves

variable {task : Nat} {r r' : Registry α} {t t' : RegistryTask α} {event : Option (ReplyEvent α)}

/-- The event of a move is one of the task that moves. -/
theorem event_task (h : TaskMoves task r t event t' r') : ∀ e ∈ event, e.task = task := by
  cases h with
  | @waits _ _ _ _ taken _ _ _ _ _ => cases taken <;> simp [ReplyEvent.task]
  | _ => simp [ReplyEvent.task]

/-- A move counts a reply as discarded when it refuses one, and only then. -/
theorem discarded (h : TaskMoves task r t event t' r') :
    r'.discarded = r.discarded + UInt64.ofNat (event.toList.countP ReplyEvent.isRefused) := by
  cases h with
  | @waits _ _ _ _ taken _ _ _ _ _ => cases taken <;> simp [ReplyEvent.isRefused]
  | _ => simp [ReplyEvent.isRefused, Registry.discard]

/-- Replies are handed over out of a complete wait, which has been delivered then. -/
theorem delivered_eq {id : CorrelationId} {n : Nat} {items : List α}
    (h : TaskMoves task r t (some (.delivered task id n items)) t' r') :
    ∃ w, r.wait? n = some w ∧ w.status = .complete ∧ items = w.collected ∧
      r'.wait? n = some w.take?.2 := by
  generalize he : some (ReplyEvent.delivered task id n items) = event at h
  cases h with
  | @waits _ _ _ _ _ _ w _ hw hm =>
      cases hm with
      | took hc =>
          cases he
          exact ⟨w, hw, hc, rfl, by simp [hw]⟩
      | looked =>
          rcases w.take?_cases with ⟨hc, ht⟩ | ⟨hc, ht⟩ <;> simp only [ht] at he <;> cases he
          exact ⟨w, hw, hc, rfl, by simp [hw]⟩
      | missed _ | resumed _ | queued _ | woken _ | shut => cases he
  | _ => cases he

end TaskMoves

namespace Collector

variable {s s' : Collector α} {a : CollectorAction α}

/-- The discarded replies are counted one by one as they are refused. -/
theorem Moves.discarded (h : s.Moves a s') :
    s'.registry.discarded =
      s.registry.discarded + UInt64.ofNat ((s.event? a).toList.countP ReplyEvent.isRefused) := by
  cases h with
  | task _ hm => exact hm.discarded
  | registered _ | occupied _ | offer | await | unregister | expired _ _ | cancelled _ _
  | forgotten _ => simp [event?, ReplyEvent.isRefused, Registry.enter]

/-- An event that is not the beginning of an offer is one of a task that moves. -/
theorem Moves.task_of_event {e : ReplyEvent α} (h : s.Moves a s') (he : s.event? a = some e)
    (hne : ∀ task id item, e ≠ .offered task id item) :
    ∃ t t', s.tasks[e.task]? = some t ∧ TaskMoves e.task s.registry t (some e) t' s'.registry ∧
      s'.tasks = s.tasks.set e.task t' := by
  cases h with
  | @task task t t' r lines ht hm =>
      obtain rfl := hm.event_task e he
      rw [he] at hm
      exact ⟨t, t', ht, hm, rfl⟩
  | offer =>
      cases he
      exact absurd rfl (hne _ _ _)
  | registered _ | occupied _ | await | unregister | expired _ _ | cancelled _ _
  | forgotten _ => cases he

/-- A call that waits on a wait behind a move waited on it before, or has just claimed it. -/
theorem Moves.waiting_cases (h : s.Moves a s') {task n : Nat} {id : CorrelationId}
    {timeout : Duration} {stage : WaitStage α}
    (ht : s'.tasks[task]? = some (.await id timeout (.waiting n stage))) :
    (∃ stage', s.tasks[task]? = some (.await id timeout (.waiting n stage'))) ∨
      ∃ w, s'.registry.wait? n = some w ∧ w.claimed = true := by
  cases h with
  | registered _ | occupied _ => exact .inl ⟨stage, ht⟩
  | offer | await | unregister =>
      rcases task_of_spawn ht with hold | ⟨-, hnew⟩
      · exact .inl ⟨stage, hold⟩
      · cases hnew
  | forgotten _ | cancelled _ _ =>
      rcases task_of_put ht with ⟨-, hnew⟩ | ⟨-, hold⟩
      · cases hnew
      · exact .inl ⟨stage, hold⟩
  | expired hold hw =>
      rcases task_of_put ht with ⟨rfl, hnew⟩ | ⟨-, hold⟩
      · cases hnew
        exact .inl ⟨_, hold⟩
      · exact .inl ⟨stage, hold⟩
  | task hold hm =>
      rcases task_of_put ht with ⟨rfl, rfl⟩ | ⟨-, hold⟩
      · generalize s.event? _ = event at hm
        cases hm with
        | @claimed _ _ _ w hw _ => exact .inr ⟨w.claim.2, by simp [hw], rfl⟩
        | waits _ _ => exact .inl ⟨_, hold⟩
      · exact .inl ⟨stage, hold⟩

end Collector

/-! ### The books -/

/-- The events of a task. -/
def eventsOf (task : Nat) (events : List (ReplyEvent α)) : List (ReplyEvent α) :=
  events.filter fun e => e.task = task

theorem mem_eventsOf {task : Nat} {events : List (ReplyEvent α)} {e : ReplyEvent α} :
    e ∈ eventsOf task events ↔ e ∈ events ∧ e.task = task := by
  simp [eventsOf]

@[simp] theorem eventsOf_append (task : Nat) (es es' : List (ReplyEvent α)) :
    eventsOf task (es ++ es') = eventsOf task es ++ eventsOf task es' :=
  List.filter_append es es'

theorem eventsOf_of_eq {task : Nat} {es : List (ReplyEvent α)} (h : ∀ e ∈ es, e.task = task) :
    eventsOf task es = es :=
  List.filter_eq_self.mpr fun e he => by simpa using h e he

theorem eventsOf_of_ne {task other : Nat} {es : List (ReplyEvent α)}
    (h : ∀ e ∈ es, e.task = task) (hne : task ≠ other) : eventsOf other es = [] :=
  List.filter_eq_nil_iff.mpr fun e he => by simpa [h e he] using hne

/-- The history of a collector agrees with its state. -/
structure Ledger (events : List (ReplyEvent α)) (s : Collector α) : Prop where
  /-- Every wait holds what it has accepted. -/
  holds : ∀ {n w}, s.registry.wait? n = some w → w.Holds (repliesOf n events)
  /-- A wait that there is not has accepted nothing. -/
  unborn : ∀ {n}, s.registry.wait? n = none → repliesOf n events = []
  /-- Every task has gone through the events of its stage. -/
  story : ∀ task, Story task s.tasks[task]? (eventsOf task events)
  /-- What has been handed over is all that the wait has accepted. -/
  handed : ∀ {task id n items}, .delivered task id n items ∈ events →
    ∃ w, s.registry.wait? n = some w ∧ w.status = .delivered ∧ items = repliesOf n events
  /-- The replies of a wait have been handed over once at most. -/
  handed_once : (events.filterMap ReplyEvent.deliveredFrom).Nodup
  /-- A call waits on a wait that has been claimed. -/
  claimed : ∀ {task n : Nat} {id : CorrelationId} {timeout : Duration} {stage : WaitStage α},
    s.tasks[task]? = some (RegistryTask.await id timeout (.waiting n stage)) →
      ∃ w, s.registry.wait? n = some w ∧ w.claimed = true
  /-- The discarded replies are those refused. -/
  discarded : s.registry.discarded = UInt64.ofNat (events.countP ReplyEvent.isRefused)

namespace Ledger

variable {events : List (ReplyEvent α)} {s s' : Collector α} {a : CollectorAction α}

/-- Nothing has happened to a registry that nobody uses yet. -/
theorem empty : Ledger [] (Collector.empty : Collector α) where
  holds h := by simp [Collector.empty, Registry.empty, Registry.wait?] at h
  unborn _ := rfl
  story _ := .unborn
  handed h := by simp at h
  handed_once := by simp
  claimed h := by simp [Collector.empty] at h
  discarded := rfl

/-- The waits agree with the history behind a move. -/
theorem holds_move (hL : Ledger events s) (hm : s.Moves a s') {n : Nat} {w : Wait α}
    (hw : s'.registry.wait? n = some w) :
    w.Holds (repliesOf n (events ++ (s.event? a).toList)) := by
  rw [repliesOf_append]
  cases hn : s.registry.wait? n with
  | none =>
      obtain ⟨he, hnew⟩ := hm.wait?_eq_none hn
      obtain ⟨expected, rfl⟩ := hnew w hw
      rw [hL.unborn hn, he]
      exact Wait.holds_new expected
  | some v =>
      obtain ⟨w', hw', hev⟩ := hm.evolves hn
      obtain rfl : w = w' := Option.some.inj (hw.symm.trans hw')
      exact hev.holds (hL.holds hn)

/-- What is not a wait behind a move was none before and has accepted nothing. -/
theorem unborn_move (hL : Ledger events s) (hm : s.Moves a s') {n : Nat}
    (hn' : s'.registry.wait? n = none) :
    repliesOf n (events ++ (s.event? a).toList) = [] := by
  rw [repliesOf_append]
  cases hn : s.registry.wait? n with
  | none => rw [hL.unborn hn, (hm.wait?_eq_none hn).1, List.append_nil]
  | some v =>
      obtain ⟨w', hw', -⟩ := hm.evolves hn
      simp [hn'] at hw'

/-- The events of a task that begins. -/
theorem story_spawn (hL : Ledger events s) {t : RegistryTask α} {new : List (ReplyEvent α)}
    (hnew : ∀ e ∈ new, e.task = s.tasks.length) (ht : Story s.tasks.length (some t) new)
    (task : Nat) : Story task (s.spawn t).tasks[task]? (eventsOf task (events ++ new)) := by
  have hold := hL.story task
  rw [eventsOf_append, Collector.tasks_spawn]
  rcases Nat.lt_trichotomy task s.tasks.length with h | rfl | h
  · rw [eventsOf_of_ne hnew (Nat.ne_of_gt h), List.append_nil, List.getElem?_append_left h]
    exact hold
  · have hnil : eventsOf s.tasks.length events = [] := by
      rw [List.getElem?_eq_none_iff.mpr (Nat.le_refl _)] at hold
      generalize eventsOf s.tasks.length events = es at hold
      cases hold
      rfl
    rw [eventsOf_of_eq hnew, hnil]
    simpa using ht
  · have hout : (s.tasks ++ [t])[task]? = s.tasks[task]? := by
      rw [List.getElem?_eq_none_iff.mpr (by simp; omega),
        List.getElem?_eq_none_iff.mpr (Nat.le_of_lt h)]
    rw [eventsOf_of_ne hnew (Nat.ne_of_lt h), List.append_nil, hout]
    exact hold

/-- The events of a task that goes on. -/
theorem story_set (hL : Ledger events s) {task : Nat} {t t' : RegistryTask α}
    {new : List (ReplyEvent α)} (ht : s.tasks[task]? = some t) (hnew : ∀ e ∈ new, e.task = task)
    (hs : Story task (some t) (eventsOf task events) →
      Story task (some t') (eventsOf task events ++ new)) (other : Nat) :
    Story other (s.tasks.set task t')[other]? (eventsOf other (events ++ new)) := by
  have hold := hL.story other
  rw [eventsOf_append]
  by_cases h : task = other
  · subst h
    rw [eventsOf_of_eq hnew, List.getElem?_set_self (List.getElem?_eq_some_iff.mp ht).1]
    exact hs (ht ▸ hold)
  · rw [eventsOf_of_ne hnew h, List.append_nil, List.getElem?_set_ne h]
    exact hold

/-- Every task has gone through the events of its stage behind a move. -/
theorem story_move (hL : Ledger events s) (hm : s.Moves a s') (task : Nat) :
    Story task s'.tasks[task]? (eventsOf task (events ++ (s.event? a).toList)) := by
  cases hm with
  | registered _ | occupied _ => simpa [Collector.event?] using hL.story task
  | offer =>
      exact hL.story_spawn (fun e he => by simp_all [ReplyEvent.task]) .finding task
  | await | unregister =>
      exact hL.story_spawn (fun e he => by simp_all) (.empty rfl rfl) task
  | task ht hm =>
      exact hL.story_set ht (fun e he => hm.event_task e (by simpa using he)) (·.move hm) task
  | expired ht _ | cancelled ht _ | forgotten ht =>
      refine hL.story_set ht (fun e he => by simp [Collector.event?] at he) ?_ task
      intro hs
      simp only [Collector.event?, Option.toList_none, List.append_nil]
      exact hs.await_congr rfl

/-- What has been handed over stays all that its wait has accepted. -/
theorem handed_move (hL : Ledger events s) (hm : s.Moves a s') {task n : Nat} {id : CorrelationId}
    {items : List α} (h : .delivered task id n items ∈ events ++ (s.event? a).toList) :
    ∃ w, s'.registry.wait? n = some w ∧ w.status = .delivered ∧
      items = repliesOf n (events ++ (s.event? a).toList) := by
  rw [repliesOf_append]
  rcases List.mem_append.mp h with hold | hnew
  · obtain ⟨w, hw, hd, rfl⟩ := hL.handed hold
    obtain ⟨w', hw', he⟩ := hm.evolves hw
    rw [(he.settled (by simp [hd])).1, List.append_nil]
    exact ⟨w', hw', he.delivered hd, rfl⟩
  · have he : s.event? a = some (.delivered task id n items) := by simpa using hnew
    obtain ⟨t, t', -, htm, -⟩ := hm.task_of_event he nofun
    obtain ⟨w, hw, hc, rfl, hw'⟩ := htm.delivered_eq
    refine ⟨_, hw', by simp [Wait.take?_of_complete hc], ?_⟩
    simpa [he, repliesOf, ReplyEvent.acceptedBy] using (hL.holds hw).collected (by simp [hc])

/-- The replies of a wait are not handed over a second time. -/
theorem handed_once_move (hL : Ledger events s) (hm : s.Moves a s') :
    ((events ++ (s.event? a).toList).filterMap ReplyEvent.deliveredFrom).Nodup := by
  rw [List.filterMap_append]
  refine List.nodup_append.mpr ⟨hL.handed_once, ?_, ?_⟩
  · cases s.event? a with
    | none => simp
    | some e => cases h : e.deliveredFrom <;> simp [h]
  · intro n hold m hnew heq
    subst heq
    obtain ⟨e, he, hen⟩ := List.mem_filterMap.mp hnew
    obtain ⟨e', he', hen'⟩ := List.mem_filterMap.mp hold
    obtain ⟨task, id, items, rfl⟩ := ReplyEvent.deliveredFrom_eq_some.mp hen
    obtain ⟨task', id', items', rfl⟩ := ReplyEvent.deliveredFrom_eq_some.mp hen'
    have he : s.event? a = some (.delivered task id n items) := by simpa using he
    obtain ⟨t, t', -, htm, -⟩ := hm.task_of_event he nofun
    obtain ⟨w, hw, hc, -⟩ := htm.delivered_eq
    obtain ⟨w', hw', hd, -⟩ := hL.handed he'
    obtain rfl : w = w' := Option.some.inj (hw.symm.trans hw')
    simp [hc] at hd

/-- A call waits on a wait that has been claimed behind a move. -/
theorem claimed_move (hL : Ledger events s) (hm : s.Moves a s') {task n : Nat}
    {id : CorrelationId} {timeout : Duration} {stage : WaitStage α}
    (ht : s'.tasks[task]? = some (.await id timeout (.waiting n stage))) :
    ∃ w, s'.registry.wait? n = some w ∧ w.claimed = true := by
  rcases hm.waiting_cases ht with ⟨stage', hold⟩ | hnew
  · obtain ⟨w, hw, hc⟩ := hL.claimed hold
    obtain ⟨w', hw', he⟩ := hm.evolves hw
    exact ⟨w', hw', he.claimed hc⟩
  · exact hnew

/-- Every move keeps the books. -/
theorem move (hL : Ledger events s) (hm : s.Moves a s') :
    Ledger (events ++ (s.event? a).toList) s' where
  holds := hL.holds_move hm
  unborn := hL.unborn_move hm
  story := hL.story_move hm
  handed := hL.handed_move hm
  handed_once := hL.handed_once_move hm
  claimed := hL.claimed_move hm
  discarded := by rw [hm.discarded, hL.discarded, List.countP_append, UInt64.ofNat_add]

end Ledger

/-- **The books are right behind every run.** -/
theorem ledger_of_run {actions : List (CollectorAction α)} {s : Collector α}
    (h : Collector.empty.run actions = some s) : Ledger (Collector.empty.history actions) s := by
  refine foldlM_induction (P := fun actions s => Ledger (Collector.empty.history actions) s)
    .empty ?_ h
  intro _ _ _ _ hrun hL hstep
  rw [Collector.history_concat hrun]
  exact hL.move (Collector.moves_of_step hstep)

end ScatterGather
