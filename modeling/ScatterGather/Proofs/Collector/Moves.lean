import Mathlib.Data.List.Basic
import ScatterGather.Collector.Registry
import ScatterGather.Proofs.Collector.Wait
import ScatterGather.Proofs.Run

/-!
# What a collector can do in one step

`Collector.step` is read once and for all as a relation with a named case for each thing that can
happen (`Collector.Moves`), together with what happens to replies (`ReplyEvent`): an offer begins,
its lookup finds a wait, its reply is accepted or refused, the replies of a wait are handed over.
`Collector.history` lists these events along a run. Everything that is proved about collectors goes
through `Collector.moves_of_step` and never opens the step again.
-/

namespace ScatterGather

variable {α : Type}

/-! ### The registry under its operations -/

namespace Registry

variable (r : Registry α)

/-- The registry with a new wait under an id. -/
def enter (id : CorrelationId) (expected : Nat) : Registry α :=
  { r with
    entries := r.entries ++ [(id, r.waits.length)]
    waits := r.waits ++ [.new expected] }

variable {r}

/-- A free id gets a wait of the next number. -/
theorem register_of_none {id : CorrelationId} (h : r.find? id = none) (expected : Nat) :
    r.register id expected = (.ok r.waits.length, r.enter id expected) := by
  rw [register, h]
  rfl

/-- An id that has a wait keeps it. -/
theorem register_of_some {id : CorrelationId} {number : Nat} (h : r.find? id = some number)
    (expected : Nat) :
    r.register id expected = (.error (.invalidState (.waitExists id)), r) := by
  rw [register, h]

/-- What a removal finds. -/
theorem remove_eq {id : CorrelationId} {found : Option Nat} (h : r.find? id = found) :
    r.remove id = (found, (r.remove id).2) :=
  Prod.ext h rfl

@[simp] theorem wait?_setWait (number m : Nat) (w : Wait α) :
    (r.setWait number w).wait? m =
      if number = m then (r.wait? m).map fun _ => w else r.wait? m := by
  unfold setWait wait?
  rw [List.getElem?_set']
  rfl

@[simp] theorem wait?_close (number m : Nat) :
    (r.close number).wait? m = if number = m then (r.wait? m).map Wait.close else r.wait? m := by
  unfold close wait?
  rw [List.getElem?_modify]
  split <;> simp

@[simp] theorem wait?_remove (id : CorrelationId) (m : Nat) :
    (r.remove id).2.wait? m = r.wait? m := rfl

@[simp] theorem wait?_discard (m : Nat) : r.discard.wait? m = r.wait? m := rfl

theorem wait?_enter (id : CorrelationId) (expected m : Nat) :
    (r.enter id expected).wait? m =
      if m = r.waits.length then some (.new expected) else r.wait? m := by
  unfold enter wait?
  rcases Nat.lt_trichotomy m r.waits.length with h | rfl | h
  · rw [List.getElem?_append_left h, if_neg (Nat.ne_of_lt h)]
  · simp
  · rw [if_neg (Nat.ne_of_gt h), List.getElem?_eq_none_iff.mpr (by simp; omega),
      List.getElem?_eq_none_iff.mpr (Nat.le_of_lt h)]

@[simp] theorem find?_setWait (number : Nat) (w : Wait α) (id : CorrelationId) :
    (r.setWait number w).find? id = r.find? id := rfl

@[simp] theorem find?_close (number : Nat) (id : CorrelationId) :
    (r.close number).find? id = r.find? id := rfl

@[simp] theorem find?_discard (id : CorrelationId) : r.discard.find? id = r.find? id := rfl

@[simp] theorem discarded_setWait (number : Nat) (w : Wait α) :
    (r.setWait number w).discarded = r.discarded := rfl

@[simp] theorem discarded_close (number : Nat) : (r.close number).discarded = r.discarded := rfl

@[simp] theorem discarded_remove (id : CorrelationId) :
    (r.remove id).2.discarded = r.discarded := rfl

/-- A wait of a number is there exactly when the number has been given. -/
theorem wait?_eq_none_iff {m : Nat} : r.wait? m = none ↔ r.waits.length ≤ m :=
  List.getElem?_eq_none_iff

end Registry

/-! ### The events of replies -/

/-- What happens to replies, and to which task it happens. -/
inductive ReplyEvent (α : Type) where
  /-- A task begins to offer a reply under an id. -/
  | offered (task : Nat) (id : CorrelationId) (item : α)
  /-- The lookup of an offer has found the wait of a number. -/
  | found (task : Nat) (id : CorrelationId) (number : Nat)
  /-- The wait of a number has accepted the reply of an offer. -/
  | accepted (task : Nat) (id : CorrelationId) (number : Nat) (item : α)
  /-- Nobody collects the reply of an offer. -/
  | refused (task : Nat) (id : CorrelationId) (item : α)
  /-- The replies of the wait of a number are handed to a call that waits for them. -/
  | delivered (task : Nat) (id : CorrelationId) (number : Nat) (items : List α)

namespace ReplyEvent

/-- The task of an event. -/
def task : ReplyEvent α → Nat
  | offered task _ _ | found task _ _ | accepted task _ _ _ | refused task _ _
  | delivered task _ _ _ => task

/-- The offer and its reply that the wait of a number has accepted. -/
def acceptedBy (number : Nat) : ReplyEvent α → Option (Nat × α)
  | accepted task _ m item => if m = number then some (task, item) else none
  | _ => none

/-- The number of the wait whose replies were handed over. -/
def deliveredFrom : ReplyEvent α → Option Nat
  | delivered _ _ number _ => some number
  | _ => none

/-- The reply of an offer was refused. -/
def isRefused : ReplyEvent α → Bool
  | refused .. => true
  | _ => false

theorem deliveredFrom_eq_some {e : ReplyEvent α} {n : Nat} :
    e.deliveredFrom = some n ↔ ∃ task id items, e = .delivered task id n items := by
  cases e <;> simp [deliveredFrom]

theorem acceptedBy_eq_some {e : ReplyEvent α} {n task : Nat} {item : α} :
    e.acceptedBy n = some (task, item) ↔ ∃ id, e = .accepted task id n item := by
  cases e <;> simp [acceptedBy]
  exact ⟨fun ⟨h, h', h''⟩ => ⟨h', h, h''⟩, fun ⟨h, h', h''⟩ => ⟨h', h, h''⟩⟩

end ReplyEvent

/-- The offers and replies that the wait of a number has accepted, in the order of acceptance. -/
def acceptances (number : Nat) (events : List (ReplyEvent α)) : List (Nat × α) :=
  events.filterMap (ReplyEvent.acceptedBy number)

namespace Collector

@[simp] theorem registry_put (s : Collector α) (task : Nat) (t : RegistryTask α) (r : Registry α)
    (lines : List LogLine) : (s.put task t r lines).registry = r := rfl

@[simp] theorem tasks_put (s : Collector α) (task : Nat) (t : RegistryTask α) (r : Registry α)
    (lines : List LogLine) : (s.put task t r lines).tasks = s.tasks.set task t := rfl

@[simp] theorem registry_spawn (s : Collector α) (t : RegistryTask α) :
    (s.spawn t).registry = s.registry := rfl

@[simp] theorem tasks_spawn (s : Collector α) (t : RegistryTask α) :
    (s.spawn t).tasks = s.tasks ++ [t] := rfl

/-- A task behind the beginning of a task is an old one or the new one. -/
theorem task_of_spawn {s : Collector α} {t t' : RegistryTask α} {task : Nat}
    (h : (s.spawn t).tasks[task]? = some t') :
    s.tasks[task]? = some t' ∨ task = s.tasks.length ∧ t = t' :=
  getElem?_concat_eq_some h

/-- A task behind the step of a task is that one or has not moved. -/
theorem task_of_put {s : Collector α} {t t' : RegistryTask α} {task other : Nat} {r : Registry α}
    {lines : List LogLine} (h : (s.put task t r lines).tasks[other]? = some t') :
    task = other ∧ t = t' ∨ task ≠ other ∧ s.tasks[other]? = some t' := by
  rw [tasks_put, List.getElem?_set] at h
  split at h
  · next heq =>
      split at h <;> cases h
      exact .inl ⟨heq, rfl⟩
  · next hne => exact .inr ⟨hne, h⟩

/-- What the next step of a task means for replies. -/
def taskEvent? (r : Registry α) (task : Nat) : RegistryTask α → Option (ReplyEvent α)
  | .offer id (.finding item) =>
    match r.find? id with
    | some number => some (.found task id number)
    | none => some (.refused task id item)
  | .offer id (.appending number item) => do
    let w ← r.wait? number
    return if w.status = .collecting then .accepted task id number item
      else .refused task id item
  | .await id _ (.waiting number .checking) | .await id _ (.waiting number .lastLook) => do
    return .delivered task id number (← (← r.wait? number).take?.1)
  | _ => none

/-- What an action means for replies. -/
def event? (s : Collector α) : CollectorAction α → Option (ReplyEvent α)
  | .offer id item => some (.offered s.tasks.length id item)
  | .advance task => do taskEvent? s.registry task (← s.tasks[task]?)
  | _ => none

/-- The events of replies along a run. -/
def history (s : Collector α) (actions : List (CollectorAction α)) : List (ReplyEvent α) :=
  emitted step event? s actions

/-- The history of a run that stops in between. -/
theorem history_append {s s' : Collector α} {as : List (CollectorAction α)}
    (h : s.run as = some s') (bs : List (CollectorAction α)) :
    s.history (as ++ bs) = s.history as ++ s'.history bs :=
  emitted_append h bs

/-- The history of a run with one action more. -/
theorem history_concat {s s' : Collector α} {as : List (CollectorAction α)}
    (h : s.run as = some s') (a : CollectorAction α) :
    s.history (as ++ [a]) = s.history as ++ (s'.event? a).toList :=
  emitted_concat h a

end Collector

/-! ### The moves of a call that waits -/

/-- The next step of a call on a wait by itself, and the replies that it takes. -/
inductive WaitMoves (call : Nat) (w : Wait α) :
    WaitStage α → Option (List α) → WaitStage α → Wait α → Prop where
  | took (h : w.status = .complete) :
    WaitMoves call w .checking (some w.collected) (.ended (some w.collected)) w.take?.2
  | missed (h : w.status ≠ .complete) : WaitMoves call w .checking none .parking w
  | resumed (h : w.wakeUp = true) :
    WaitMoves call w .parking none .checking { w with wakeUp := false }
  | queued (h : w.wakeUp = false) :
    WaitMoves call w .parking none .parked { w with queue := w.queue ++ [call] }
  | woken (h : call ∈ w.woken) :
    WaitMoves call w .parked none .checking { w with woken := w.woken.erase call }
  | shut : WaitMoves call w .closing none .lastLook w.close
  | looked : WaitMoves call w .lastLook w.take?.1 (.ended w.take?.1) w.take?.2

/-- Every step of a call is one of these. -/
theorem waitMoves_of_advance {call : Nat} {w w' : Wait α} {stage stage' : WaitStage α}
    (h : stage.advance call w = some (stage', w')) :
    ∃ taken, WaitMoves call w stage taken stage' w' := by
  cases stage with
  | checking =>
      rcases w.take?_cases with ⟨hc, ht⟩ | ⟨hc, ht⟩
      · obtain ⟨rfl, rfl⟩ : _ ∧ w.take?.2 = w' := by simpa [WaitStage.advance, ht] using h
        exact ⟨_, .took hc⟩
      · obtain ⟨rfl, rfl⟩ : _ ∧ w = w' := by simpa [WaitStage.advance, ht] using h
        exact ⟨none, .missed hc⟩
  | parking =>
      simp only [WaitStage.advance] at h
      split at h <;> cases h
      · exact ⟨none, .resumed ‹_›⟩
      · exact ⟨none, .queued (by simpa using ‹¬w.wakeUp = true›)⟩
  | parked =>
      simp only [WaitStage.advance] at h
      split at h <;> cases h
      exact ⟨none, .woken ‹_›⟩
  | closing =>
      cases h
      exact ⟨none, .shut⟩
  | lastLook =>
      cases h
      exact ⟨_, .looked⟩
  | ended items => cases h

/-! ### The moves of a task -/

/-- The task is an offer. -/
def RegistryTask.isOffer : RegistryTask α → Bool
  | .offer .. => true
  | _ => false

/-- The next step of a task by itself: what it means for replies, where the task stands then, and
what has become of the registry. -/
inductive TaskMoves (task : Nat) (r : Registry α) :
    RegistryTask α → Option (ReplyEvent α) → RegistryTask α → Registry α → Prop where
  | found {id item number} (h : r.find? id = some number) :
    TaskMoves task r (.offer id (.finding item)) (some (.found task id number))
      (.offer id (.appending number item)) r
  | unknown {id item} (h : r.find? id = none) :
    TaskMoves task r (.offer id (.finding item)) (some (.refused task id item))
      (.offer id (.ended false)) r.discard
  | accepted {id number item w} (hw : r.wait? number = some w) (hc : w.status = .collecting) :
    TaskMoves task r (.offer id (.appending number item)) (some (.accepted task id number item))
      (.offer id (if (w.append item).2.status = .complete then .waking number else .ended true))
      (r.setWait number (w.append item).2)
  | refused {id number item w} (hw : r.wait? number = some w) (hc : w.status ≠ .collecting) :
    TaskMoves task r (.offer id (.appending number item)) (some (.refused task id item))
      (.offer id (.ended false)) r.discard
  | woke {id number w} (hw : r.wait? number = some w) :
    TaskMoves task r (.offer id (.waking number)) none (.offer id (.ended true))
      (r.setWait number w.wakeOne)
  | awaitFound {id timeout number} (h : r.find? id = some number) :
    TaskMoves task r (.await id timeout .finding) none (.await id timeout (.claiming number)) r
  | awaitUnknown {id timeout} (h : r.find? id = none) :
    TaskMoves task r (.await id timeout .finding) none
      (.await id timeout (.ended (.error (.invalidState (.noWait id))))) r
  | claimed {id timeout number w} (hw : r.wait? number = some w) (hc : w.claimed = false) :
    TaskMoves task r (.await id timeout (.claiming number)) none
      (.await id timeout (.waiting number .checking)) (r.setWait number w.claim.2)
  | awaited {id timeout number w} (hw : r.wait? number = some w) (hc : w.claimed = true) :
    TaskMoves task r (.await id timeout (.claiming number)) none
      (.await id timeout (.ended (.error (.invalidState (.alreadyAwaited id))))) r
  | waits {id timeout number stage taken stage' w w'} (hw : r.wait? number = some w)
      (hm : WaitMoves task w stage taken stage' w') :
    TaskMoves task r (.await id timeout (.waiting number stage))
      (taken.map (.delivered task id number)) (.await id timeout (.waiting number stage'))
      (r.setWait number w')
  | returned {id timeout number items w} (hw : r.wait? number = some w) :
    TaskMoves task r (.await id timeout (.waiting number (.ended items))) none
      (.await id timeout (.removing (Collector.awaitResult id timeout w items).1)) r
  | removed {id timeout result number} (h : r.find? id = some number) :
    TaskMoves task r (.await id timeout (.removing result)) none
      (.await id timeout (.closing number result)) (r.remove id).2
  | absent {id timeout result} (h : r.find? id = none) :
    TaskMoves task r (.await id timeout (.removing result)) none
      (.await id timeout (.ended result)) (r.remove id).2
  | shut {id timeout number result} :
    TaskMoves task r (.await id timeout (.closing number result)) none
      (.await id timeout (.ended result)) (r.close number)
  | left {id timeout number} (h : r.find? id = some number) :
    TaskMoves task r (.await id timeout .leaving) none (.await id timeout (.sweeping number))
      (r.remove id).2
  | leftNothing {id timeout} (h : r.find? id = none) :
    TaskMoves task r (.await id timeout .leaving) none (.await id timeout .gone) (r.remove id).2
  | swept {id timeout number} :
    TaskMoves task r (.await id timeout (.sweeping number)) none (.await id timeout .gone)
      (r.close number)
  | unregistered {id number} (h : r.find? id = some number) :
    TaskMoves task r (.unregister id .removing) none (.unregister id (.closing number))
      (r.remove id).2
  | notRegistered {id} (h : r.find? id = none) :
    TaskMoves task r (.unregister id .removing) none (.unregister id (.ended false))
      (r.remove id).2
  | unregisterShut {id number} :
    TaskMoves task r (.unregister id (.closing number)) none (.unregister id (.ended true))
      (r.close number)

namespace Collector

/-- The next step of an offer is one of its moves. -/
theorem taskMoves_of_advanceOffer {r r' : Registry α} {id : CorrelationId}
    {stage stage' : OfferStage α} {lines : List LogLine} (task : Nat)
    (h : advanceOffer r id stage = some (stage', r', lines)) :
    TaskMoves task r (.offer id stage) (taskEvent? r task (.offer id stage)) (.offer id stage')
      r' := by
  cases stage with
  | finding item =>
      cases hf : r.find? id with
      | none =>
          obtain ⟨rfl, rfl, -⟩ := by simpa [advanceOffer, hf] using h
          simpa [taskEvent?, hf] using TaskMoves.unknown hf
      | some number =>
          obtain ⟨rfl, rfl, -⟩ := by simpa [advanceOffer, hf] using h
          simpa [taskEvent?, hf] using TaskMoves.found hf
  | appending number item =>
      obtain ⟨w, hw, h⟩ := Option.bind_eq_some_iff.mp h
      by_cases hc : w.status = .collecting
      · have ha : w.append item = (true, (w.append item).2) :=
          Prod.ext (by simp [Wait.append_fst, hc]) rfl
        rw [ha] at h
        obtain ⟨rfl, rfl, -⟩ := by simpa using h
        simpa [taskEvent?, hw, hc] using TaskMoves.accepted hw hc
      · rw [Wait.append_of_not_collecting hc] at h
        obtain ⟨rfl, rfl, -⟩ := by simpa using h
        simpa [taskEvent?, hw, hc] using TaskMoves.refused hw hc
  | waking number =>
      obtain ⟨w, hw, h⟩ := Option.bind_eq_some_iff.mp h
      obtain ⟨rfl, rfl, -⟩ := by simpa using h
      exact TaskMoves.woke hw
  | ended accepted => cases h

/-- The event of a call that waits is what it takes. -/
theorem taskEvent?_waiting {r : Registry α} {task number : Nat} {id : CorrelationId}
    {timeout : Duration} {stage stage' : WaitStage α} {taken : Option (List α)} {w w' : Wait α}
    (hw : r.wait? number = some w) (hm : WaitMoves task w stage taken stage' w') :
    taskEvent? r task (.await id timeout (.waiting number stage)) =
      taken.map (.delivered task id number) := by
  cases hm with
  | took h => simp [taskEvent?, hw, Wait.take?_of_complete h]
  | missed h => simp [taskEvent?, hw, Wait.take?_of_not_complete h]
  | looked =>
      rw [taskEvent?, hw, Option.map_eq_bind]
      rfl
  | resumed _ | queued _ | woken _ | shut => rfl

/-- The next step of a call that waits is one of its moves. -/
theorem taskMoves_of_advanceAwait {r r' : Registry α} {id : CorrelationId} {timeout : Duration}
    {stage stage' : AwaitStage α} {lines : List LogLine} {task : Nat}
    (h : advanceAwait task r id timeout stage = some (stage', r', lines)) :
    TaskMoves task r (.await id timeout stage) (taskEvent? r task (.await id timeout stage))
      (.await id timeout stage') r' := by
  cases stage with
  | finding =>
      cases hf : r.find? id with
      | none =>
          obtain ⟨rfl, rfl, -⟩ := by simpa [advanceAwait, hf] using h
          exact .awaitUnknown hf
      | some number =>
          obtain ⟨rfl, rfl, -⟩ := by simpa [advanceAwait, hf] using h
          exact .awaitFound hf
  | claiming number =>
      obtain ⟨w, hw, h⟩ := Option.bind_eq_some_iff.mp h
      cases hc : w.claimed with
      | false =>
          have ha : w.claim = (true, w.claim.2) := by simp [Wait.claim, hc]
          rw [ha] at h
          obtain ⟨rfl, rfl, -⟩ := by simpa using h
          exact .claimed hw hc
      | true =>
          have ha : w.claim = (false, w.claim.2) := by simp [Wait.claim, hc]
          rw [ha] at h
          obtain ⟨rfl, rfl, -⟩ := by simpa using h
          exact .awaited hw hc
  | waiting number stage =>
      by_cases he : ∃ items, stage = .ended items
      · obtain ⟨items, rfl⟩ := he
        obtain ⟨w, hw, h⟩ := Option.bind_eq_some_iff.mp h
        obtain ⟨rfl, rfl, -⟩ := by simpa using h
        exact .returned hw
      · have hs : advanceAwait task r id timeout (.waiting number stage) = (do
            let w ← r.wait? number
            let next ← stage.advance task w
            return (.waiting number next.1, r.setWait number next.2, [])) := by
          cases stage with
          | ended items => exact absurd ⟨items, rfl⟩ he
          | _ => rfl
        obtain ⟨w, hw, h⟩ := Option.bind_eq_some_iff.mp (hs ▸ h)
        obtain ⟨⟨stage'', w'⟩, ha, h⟩ := Option.bind_eq_some_iff.mp h
        obtain ⟨rfl, rfl, -⟩ := by simpa using h
        obtain ⟨taken, hm⟩ := waitMoves_of_advance ha
        rw [taskEvent?_waiting hw hm]
        exact .waits hw hm
  | removing result =>
      cases hf : r.find? id with
      | none =>
          simp only [advanceAwait] at h
          rw [Registry.remove_eq hf] at h
          cases h
          exact .absent hf
      | some number =>
          simp only [advanceAwait] at h
          rw [Registry.remove_eq hf] at h
          cases h
          exact .removed hf
  | closing number result =>
      cases h
      exact .shut
  | leaving =>
      cases hf : r.find? id with
      | none =>
          simp only [advanceAwait] at h
          rw [Registry.remove_eq hf] at h
          cases h
          exact .leftNothing hf
      | some number =>
          simp only [advanceAwait] at h
          rw [Registry.remove_eq hf] at h
          cases h
          exact .left hf
  | sweeping number =>
      cases h
      exact .swept
  | ended result => cases h
  | gone => cases h

/-- The next step of a removal is one of its moves. -/
theorem taskMoves_of_advanceRemoval {r r' : Registry α} {id : CorrelationId}
    {stage stage' : RemovalStage} (task : Nat)
    (h : advanceRemoval r id stage = some (stage', r')) :
    TaskMoves task r (.unregister id stage) none (.unregister id stage') r' := by
  cases stage with
  | removing =>
      cases hf : r.find? id with
      | none =>
          simp only [advanceRemoval] at h
          rw [Registry.remove_eq hf] at h
          cases h
          exact .notRegistered hf
      | some number =>
          simp only [advanceRemoval] at h
          rw [Registry.remove_eq hf] at h
          cases h
          exact .unregistered hf
  | closing number =>
      cases h
      exact .unregisterShut
  | ended removed => cases h

end Collector

/-! ### The moves of a collector -/

namespace Collector

/-- What an action does to a collector. -/
inductive Moves (s : Collector α) : CollectorAction α → Collector α → Prop where
  | registered {id expected} (h : s.registry.find? id = none) :
    Moves s (.register id expected) { s with registry := s.registry.enter id expected }
  | occupied {id expected number} (h : s.registry.find? id = some number) :
    Moves s (.register id expected) s
  | offer {id item} : Moves s (.offer id item) (s.spawn (.offer id (.finding item)))
  | await {id timeout} : Moves s (.await id timeout) (s.spawn (.await id timeout .finding))
  | unregister {id} : Moves s (.unregister id) (s.spawn (.unregister id .removing))
  | task {task t t' r lines} (ht : s.tasks[task]? = some t)
    (hm : TaskMoves task s.registry t (s.event? (.advance task)) t' r) :
    Moves s (.advance task) (s.put task t' r lines)
  | expired {task id timeout number w}
    (ht : s.tasks[task]? = some (.await id timeout (.waiting number .parked)))
    (hw : s.registry.wait? number = some w) :
    Moves s (.expire task) (s.put task (.await id timeout (.waiting number .closing))
      (s.registry.setWait number (w.leave task)) [])
  | cancelled {task id timeout number w}
    (ht : s.tasks[task]? = some (.await id timeout (.waiting number .parked)))
    (hw : s.registry.wait? number = some w) :
    Moves s (.cancel task) (s.put task (.await id timeout .leaving)
      (s.registry.setWait number (w.leave task)) [])
  | forgotten {task id timeout} (ht : s.tasks[task]? = some (.await id timeout .finding)) :
    Moves s (.cancel task) (s.put task (.await id timeout .gone) s.registry [])

/-- A step of a task by itself is one of its moves. -/
theorem moves_of_advance {s s' : Collector α} {task : Nat} (h : s.advance task = some s') :
    s.Moves (.advance task) s' := by
  obtain ⟨t, ht, h⟩ := Option.bind_eq_some_iff.mp h
  have he : s.event? (.advance task) = taskEvent? s.registry task t := by simp [event?, ht]
  cases t with
  | offer id stage =>
      obtain ⟨⟨stage', r, lines⟩, hm, h⟩ := Option.bind_eq_some_iff.mp h
      cases h
      exact .task ht (he ▸ taskMoves_of_advanceOffer task hm)
  | await id timeout stage =>
      obtain ⟨⟨stage', r, lines⟩, hm, h⟩ := Option.bind_eq_some_iff.mp h
      cases h
      exact .task ht (he ▸ taskMoves_of_advanceAwait hm)
  | unregister id stage =>
      obtain ⟨⟨stage', r⟩, hm, h⟩ := Option.bind_eq_some_iff.mp h
      cases h
      exact .task ht (he ▸ taskMoves_of_advanceRemoval task hm)

/-- A step of a task by itself takes it from where it stands to where it stands behind the step. -/
theorem taskMoves_of_step {s s' : Collector α} {task : Nat} {t : RegistryTask α}
    (h : s.step (.advance task) = some s') (ht : s.tasks[task]? = some t) :
    ∃ t', s'.tasks[task]? = some t' ∧
      TaskMoves task s.registry t (s.event? (.advance task)) t' s'.registry := by
  have hm := moves_of_advance h
  generalize ha : CollectorAction.advance task = a at hm
  cases hm with
  | @task _ u u' _ _ hu hm =>
      cases ha
      obtain rfl : t = u := Option.some.inj (ht.symm.trans hu)
      exact ⟨u', List.getElem?_set_self (List.getElem?_eq_some_iff.mp ht).1, hm⟩
  | registered _ | occupied _ | offer | await | unregister | expired _ _ | cancelled _ _
  | forgotten _ => cases ha

/-- **Every step of a collector is one of its moves.** -/
theorem moves_of_step {s s' : Collector α} {a : CollectorAction α} (h : s.step a = some s') :
    s.Moves a s' := by
  cases a with
  | register id expected =>
      obtain rfl : { s with registry := (s.registry.register id expected).2 } = s' := by
        simpa [step] using h
      cases hf : s.registry.find? id with
      | none => simpa [Registry.register_of_none hf] using Moves.registered hf
      | some number => simpa [Registry.register_of_some hf] using Moves.occupied hf
  | offer id item =>
      cases h
      exact .offer
  | await id timeout =>
      cases h
      exact .await
  | unregister id =>
      cases h
      exact .unregister
  | advance task => exact moves_of_advance h
  | expire task =>
      obtain ⟨t, ht, h⟩ := Option.bind_eq_some_iff.mp h
      split at h
      · next id timeout number stage =>
          obtain ⟨w, hw, h⟩ := Option.bind_eq_some_iff.mp h
          obtain ⟨⟨stage', w'⟩, he, h⟩ := Option.bind_eq_some_iff.mp h
          cases stage <;> cases he
          cases h
          exact .expired ht hw
      · cases h
  | cancel task =>
      obtain ⟨t, ht, h⟩ := Option.bind_eq_some_iff.mp h
      split at h
      · next id timeout number stage =>
          obtain ⟨w, hw, h⟩ := Option.bind_eq_some_iff.mp h
          obtain ⟨w', he, h⟩ := Option.bind_eq_some_iff.mp h
          cases stage <;> cases he
          cases h
          exact .cancelled ht hw
      · cases h
        exact .forgotten ht
      · cases h

/-! ### One task among others -/

/-- What a deadline or a cancellation makes of a task. -/
inductive Interrupted : RegistryTask α → RegistryTask α → Prop where
  | expired {id timeout number} :
    Interrupted (.await id timeout (.waiting number .parked))
      (.await id timeout (.waiting number .closing))
  | cancelled {id timeout number} :
    Interrupted (.await id timeout (.waiting number .parked)) (.await id timeout .leaving)
  | forgotten {id timeout} :
    Interrupted (.await id timeout .finding) (.await id timeout .gone)

/-- A task stands still in a move of the collector, moves itself, or is interrupted. -/
theorem Moves.task_cases {s s' : Collector α} {a : CollectorAction α} (h : s.Moves a s')
    {task : Nat} {t : RegistryTask α} (ht : s.tasks[task]? = some t) :
    ∃ t', s'.tasks[task]? = some t' ∧
      (t' = t ∨ a = .advance task ∧ TaskMoves task s.registry t (s.event? a) t' s'.registry ∨
        (a = .expire task ∨ a = .cancel task) ∧ Interrupted t t') := by
  have hlt : task < s.tasks.length := (List.getElem?_eq_some_iff.mp ht).1
  have hput : ∀ (other : Nat) (u : RegistryTask α),
      (s.tasks.set other u)[task]? = some (if other = task then u else t) := by
    intro other u
    split
    · next heq => rw [heq, List.getElem?_set_self hlt]
    · next hne => rw [List.getElem?_set_ne hne, ht]
  cases h with
  | registered _ | occupied _ => exact ⟨t, ht, .inl rfl⟩
  | offer | await | unregister =>
      exact ⟨t, by rw [tasks_spawn, List.getElem?_append_left hlt, ht], .inl rfl⟩
  | @task other u u' _ _ hu hm =>
      refine ⟨_, hput other u', ?_⟩
      split
      · next heq =>
          subst heq
          obtain rfl : t = u := Option.some.inj (ht.symm.trans hu)
          exact .inr (.inl ⟨rfl, hm⟩)
      · exact .inl rfl
  | @expired other _ _ _ _ hu _ | @cancelled other _ _ _ _ hu _ | @forgotten other _ _ hu =>
      refine ⟨_, hput other _, ?_⟩
      split
      · next heq =>
          subst heq
          obtain rfl := Option.some.inj (ht.symm.trans hu)
          exact .inr (.inr ⟨by simp, by constructor⟩)
      · exact .inl rfl

end Collector

end ScatterGather
