import ScatterGather.Proofs.Collector.Ledger
import ScatterGather.Proofs.Collector.Owners

/-!
# One wait among others

Who registers an id and waits for it under that id alone knows what will become of its wait, however
many other tasks use the same registry. `Standing` describes the wait of an id by the replies that
have arrived for it (`Collector.arrival?`): it holds the first of them, as many as it expects. Moves
of others leave it like that (`Standing.apart`), and a call that waits on it goes through the stages
of `AwaitCourse` and gets exactly these replies, or a timeout that counts them.
-/

namespace ScatterGather

variable {α : Type}

/-! ### Arrivals -/

/-- The reply of an offer under an id that is accepted or refused. -/
def ReplyEvent.decides? (id : CorrelationId) : ReplyEvent α → Option α
  | accepted _ id' _ item | refused _ id' item => if id' = id then some item else none
  | _ => none

namespace Collector

/-- The reply that arrives with an action under an id, as long as the wait of a number has not been
closed. -/
def arrival? (id : CorrelationId) (number : Nat) (c : Collector α) (a : CollectorAction α) :
    Option α :=
  if (c.registry.wait? number).any (·.status ≠ .closed) then
    (c.event? a).bind (ReplyEvent.decides? id)
  else none

end Collector

/-- The id that an action registers, waits for or removes. -/
def CollectorAction.claims? : CollectorAction α → Option CorrelationId
  | .register id _ | .await id _ | .unregister id => some id
  | _ => none

/-- The task that an action is about. -/
def CollectorAction.task? : CollectorAction α → Option Nat
  | .advance task | .expire task | .cancel task => some task
  | _ => none

/-- What a task does leaves the entries of other ids and the waits of others alone. -/
theorem Collector.Moves.own_step {c c' : Collector α} {a : CollectorAction α} (h : c.Moves a c')
    {task : Nat} {t : RegistryTask α} (ha : a.task? = some task) (ht : c.tasks[task]? = some t) :
    (∀ id, c'.registry.find? id =
        if id = t.id ∧ t.removes = true then none else c.registry.find? id) ∧
      ∀ n, t.number? ≠ some n → c'.registry.wait? n = c.registry.wait? n := by
  cases h with
  | task hu hm =>
      cases ha
      obtain rfl := Option.some.inj (ht.symm.trans hu)
      exact ⟨hm.find?_step, fun n => hm.wait?_of_ne⟩
  | expired hu _ | cancelled hu _ =>
      cases ha
      obtain rfl := Option.some.inj (ht.symm.trans hu)
      exact ⟨fun _ => by simp [RegistryTask.removes],
        fun n hn => Registry.wait?_setWait_of_ne (fun h => hn (congrArg some h.symm)) _⟩
  | forgotten hu =>
      cases ha
      obtain rfl := Option.some.inj (ht.symm.trans hu)
      exact ⟨fun _ => by simp [RegistryTask.removes], fun _ _ => rfl⟩
  | registered _ | occupied _ | offer | await | unregister => cases ha

/-! ### Whose tasks there are -/

/-- The wait of a number is the only one that was ever registered under an id. -/
def Collector.Belongs (number : Nat) (id : CorrelationId) (c : Collector α) : Prop :=
  ∃ owners events, Owned owners events c ∧ ∀ m : Nat, owners[m]? = some id ↔ m = number

/-- At most the given task waits for an id or removes it. -/
def Collector.ServedBy (id : CorrelationId) (own : Option Nat) (c : Collector α) : Prop :=
  ∀ (task : Nat) (t : RegistryTask α), c.tasks[task]? = some t → t.isOffer = false → t.id = id →
    own = some task

namespace Collector

variable {c c' : Collector α} {a : CollectorAction α} {id : CorrelationId} {number : Nat}

/-- A task that holds the wait of an id, or an entry of it, is one of the id. -/
theorem Belongs.number_iff (h : c.Belongs number id) {task n : Nat} {t : RegistryTask α}
    (ht : c.tasks[task]? = some t) (hn : t.number? = some n) : n = number ↔ t.id = id := by
  obtain ⟨owners, events, hO, hown⟩ := h
  rw [← hown, hO.task ht hn]
  exact ⟨Option.some.inj, congrArg some⟩

theorem Belongs.find?_iff (h : c.Belongs number id) {n : Nat} {id' : CorrelationId}
    (hf : c.registry.find? id' = some n) : n = number ↔ id' = id := by
  obtain ⟨owners, events, hO, hown⟩ := h
  rw [← hown, hO.entry hf]
  exact ⟨Option.some.inj, congrArg some⟩

/-- A wait stays the only one of its id as long as nobody registers the id. -/
theorem Belongs.move (h : c.Belongs number id) (hm : c.Moves a c')
    (ha : ∀ expected, a ≠ .register id expected) : c'.Belongs number id := by
  obtain ⟨owners, events, hO, hown⟩ := h
  refine ⟨_, _, hO.move hm, ?_⟩
  intro m
  have hreg : c.registers? a ≠ some id := by
    intro h
    cases a with
    | register id' expected =>
        rw [registers?] at h
        split at h <;> cases h
        exact ha expected rfl
    | _ => cases h
  cases hr : c.registers? a with
  | none => simpa using hown m
  | some id' =>
      rw [Option.toList_some, List.getElem?_append]
      split
      · exact hown m
      · next hge =>
          have hne : id' ≠ id := fun h => hreg (h ▸ hr)
          have hnum := (List.getElem?_eq_some_iff.mp ((hown number).mpr rfl)).1
          constructor
          · intro hs
            have := List.mem_of_getElem? hs
            simp [Ne.symm hne] at this
          · rintro rfl
            exact absurd hnum hge

/-- A new wait is the only one of an id that was never registered. -/
theorem belongs_enter {owners : List CorrelationId} {events : List (ReplyEvent α)}
    (hO : Owned owners events c) (hid : id ∉ owners) (expected : Nat) :
    Belongs c.registry.waits.length id
      { c with registry := c.registry.enter id expected } := by
  have hf : c.registry.find? id = none := by
    cases hf : c.registry.find? id with
    | none => rfl
    | some n => exact absurd (List.mem_of_getElem? (hO.entry hf)) hid
  refine ⟨_, _, hO.register expected hf, ?_⟩
  intro m
  rw [← hO.length_eq]
  constructor
  · intro h
    rcases getElem?_concat_eq_some h with hold | ⟨hm, -⟩
    · exact absurd (List.mem_of_getElem? hold) hid
    · exact hm
  · rintro rfl
    simp

/-- A task that waits for an id or removes it was there before, or begins with an action that says
so. -/
theorem Moves.task_origin (hm : c.Moves a c') {task : Nat} {t' : RegistryTask α}
    (ht' : c'.tasks[task]? = some t') (ho : t'.isOffer = false) :
    (∃ t, c.tasks[task]? = some t ∧ t.isOffer = false ∧ t.id = t'.id) ∨ a.claims? = some t'.id := by
  have hspawn : ∀ {t : RegistryTask α}, (c.spawn t).tasks[task]? = some t' →
      (t.isOffer = false → a.claims? = some t.id) →
      (∃ t, c.tasks[task]? = some t ∧ t.isOffer = false ∧ t.id = t'.id) ∨
        a.claims? = some t'.id := by
    intro t ht hcl
    rcases task_of_spawn ht with hold | ⟨-, rfl⟩
    · exact .inl ⟨t', hold, ho, rfl⟩
    · exact .inr (hcl ho)
  have hput : ∀ {other : Nat} {t u : RegistryTask α} {r : Registry α} {lines : List LogLine},
      c.tasks[other]? = some t → (c.put other u r lines).tasks[task]? = some t' →
      u.isOffer = t.isOffer → u.id = t.id →
      (∃ t, c.tasks[task]? = some t ∧ t.isOffer = false ∧ t.id = t'.id) ∨
        a.claims? = some t'.id := by
    intro other t u r lines ht hp hou hidu
    rcases task_of_put hp with ⟨rfl, rfl⟩ | ⟨-, hold⟩
    · exact .inl ⟨t, ht, hou ▸ ho, hidu.symm⟩
    · exact .inl ⟨t', hold, ho, rfl⟩
  cases hm with
  | registered _ | occupied _ => exact .inl ⟨t', ht', ho, rfl⟩
  | offer => exact hspawn ht' nofun
  | await | unregister => exact hspawn ht' fun _ => rfl
  | task ht hm => exact hput ht ht' hm.isOffer_eq hm.id_eq
  | expired ht _ | cancelled ht _ | forgotten ht => exact hput ht ht' rfl rfl

/-- Tasks of an id begin when somebody waits for it or removes it. -/
theorem ServedBy.move {own : Option Nat} (h : c.ServedBy id own) (hm : c.Moves a c')
    (ha : a.claims? ≠ some id) : c'.ServedBy id own := by
  intro task t' ht' ho hid
  rcases hm.task_origin ht' ho with ⟨t, ht, ho', hid'⟩ | hcl
  · exact h task t ht ho' (hid'.trans hid)
  · exact absurd (hid ▸ hcl) ha

/-- A task that begins to wait for an id or to remove it is the only one, where there was none. -/
theorem ServedBy.spawn (h : c.ServedBy id none) (t : RegistryTask α) :
    (c.spawn t).ServedBy id (some c.tasks.length) := by
  intro task t' ht' ho hid
  rcases task_of_spawn ht' with hold | ⟨rfl, -⟩
  · cases h task t' hold ho hid
  · rfl

end Collector

/-! ### What others do to a wait -/

/-- The wait of an id holds the first replies that have arrived for it, as many as it expects, and
is found under the id as long as it collects. -/
structure Standing (id : CorrelationId) (number size : Nat) (arrived : List α) (c : Collector α)
    (w : Wait α) : Prop where
  belongs : c.Belongs number id
  wait : c.registry.wait? number = some w
  expected : w.expected = size
  holds : w.Holds (arrived.take size)
  entry : w.status = .collecting → c.registry.find? id = some number

/-- What a move of another task does to a registry, as the wait of an id sees it. -/
theorem TaskMoves.apart {task number : Nat} {r r' : Registry α} {t t' : RegistryTask α}
    {event : Option (ReplyEvent α)} {id : CorrelationId} {w : Wait α}
    (h : TaskMoves task r t event t' r') (hother : t.isOffer = true ∨ t.id ≠ id)
    (hown : ∀ n, t.number? = some n → (n = number ↔ t.id = id)) (hw : r.wait? number = some w) :
    r'.find? id = r.find? id ∧ ∃ w', r'.wait? number = some w' ∧ w'.claimed = w.claimed ∧
      (w.SameReplies w' ∧ (event.bind (ReplyEvent.decides? id) = none ∨ w.status ≠ .collecting ∨
          r.find? id = none) ∨
        w.status = .collecting ∧ ∃ item, event.bind (ReplyEvent.decides? id) = some item ∧
          w' = (w.append item).2) := by
  cases h with
  | found _ | awaitFound _ | awaitUnknown _ | awaited _ _ | returned _ =>
      exact ⟨rfl, w, hw, rfl, .inl ⟨.refl w, .inl rfl⟩⟩
  | @unknown id' _ hf =>
      refine ⟨rfl, w, by simpa using hw, rfl, .inl ⟨.refl w, ?_⟩⟩
      by_cases hid : id' = id
      · exact .inr (.inr (hid ▸ hf))
      · exact .inl (by simp [ReplyEvent.decides?, hid])
  | @refused id' n _ v hv hc =>
      refine ⟨rfl, w, by simpa using hw, rfl, .inl ⟨.refl w, ?_⟩⟩
      by_cases hid : id' = id
      · obtain rfl := (hown n rfl).mpr hid
        obtain rfl : w = v := Option.some.inj (hw.symm.trans hv)
        exact .inr (.inl hc)
      · exact .inl (by simp [ReplyEvent.decides?, hid])
  | @accepted id' n item v hv hc =>
      by_cases hid : id' = id
      · obtain rfl := (hown n rfl).mpr hid
        obtain rfl : w = v := Option.some.inj (hw.symm.trans hv)
        exact ⟨rfl, (w.append item).2, by simp [hw], by simp,
          .inr ⟨hc, item, by simp [ReplyEvent.decides?, hid], rfl⟩⟩
      · have hne : n ≠ number := fun h => hid ((hown n rfl).mp h)
        exact ⟨rfl, w, by simp [hne, hw], rfl,
          .inl ⟨.refl w, .inl (by simp [ReplyEvent.decides?, hid])⟩⟩
  | @woke id' n v hv =>
      by_cases hn : n = number
      · subst hn
        obtain rfl : w = v := Option.some.inj (hw.symm.trans hv)
        exact ⟨rfl, w.wakeOne, by simp [hw], by simp, .inl ⟨w.sameReplies_wakeOne, .inl rfl⟩⟩
      · exact ⟨rfl, w, by simp [hn, hw], rfl, .inl ⟨.refl w, .inl rfl⟩⟩
  | @claimed id' _ n v hv _ =>
      have hne : n ≠ number := fun h => hother.elim nofun fun hid => hid ((hown n rfl).mp h)
      exact ⟨rfl, w, by simp [hne, hw], rfl, .inl ⟨.refl w, .inl rfl⟩⟩
  | @waits id' _ n _ taken _ _ _ _ _ =>
      have hne : n ≠ number := fun h => hother.elim nofun fun hid => hid ((hown n rfl).mp h)
      refine ⟨rfl, w, by simp [hne, hw], rfl, .inl ⟨.refl w, .inl ?_⟩⟩
      cases taken <;> rfl
  | @shut id' _ n _ | @swept id' _ n | @unregisterShut id' n =>
      have hne : n ≠ number := fun h => hother.elim nofun fun hid => hid ((hown n rfl).mp h)
      exact ⟨rfl, w, by simp [hne, hw], rfl, .inl ⟨.refl w, .inl rfl⟩⟩
  | removed _ | absent _ | left _ | leftNothing _ | unregistered _ | notRegistered _ =>
      have hne := hother.elim nofun fun hid => hid
      refine ⟨?_, w, hw, rfl, .inl ⟨.refl w, .inl rfl⟩⟩
      rw [Registry.find?_remove]
      exact if_neg (Ne.symm hne)

/-- What a move of others does to a collector, as the wait of an id sees it. -/
theorem Collector.Moves.apart {c c' : Collector α} {a : CollectorAction α} {id : CorrelationId}
    {number : Nat} {own : Option Nat} {w : Wait α} (h : c.Moves a c')
    (hb : c.Belongs number id) (hs : c.ServedBy id own) (ha : a.claims? ≠ some id)
    (hown : ∀ task, own = some task → a.task? ≠ some task)
    (hw : c.registry.wait? number = some w) :
    c'.registry.find? id = c.registry.find? id ∧
      ∃ w', c'.registry.wait? number = some w' ∧ w'.claimed = w.claimed ∧
        (w.SameReplies w' ∧ ((c.event? a).bind (ReplyEvent.decides? id) = none ∨
            w.status ≠ .collecting ∨ c.registry.find? id = none) ∨
          w.status = .collecting ∧ ∃ item, (c.event? a).bind (ReplyEvent.decides? id) = some item ∧
            w' = (w.append item).2) := by
  have hother : ∀ {task : Nat} {t : RegistryTask α}, a.task? = some task →
      c.tasks[task]? = some t → t.isOffer = true ∨ t.id ≠ id := by
    intro task t hat ht
    by_contra hno
    obtain ⟨ho, hid⟩ := not_or.mp hno
    exact hown task (hs task t ht (by simpa using ho) (not_not.mp hid)) hat
  cases h with
  | @registered id' expected hf =>
      have hid : id' ≠ id := fun h => ha (congrArg some h)
      have hn : number ≠ c.registry.waits.length := fun h => by
        rw [Registry.wait?_eq_none_iff.mpr (Nat.le_of_eq h.symm)] at hw
        cases hw
      refine ⟨?_, w, ?_, rfl, .inl ⟨.refl w, .inl rfl⟩⟩
      · rw [Registry.find?_enter hf, if_neg (Ne.symm hid)]
      · rw [Registry.wait?_enter, if_neg hn, hw]
  | occupied _ | offer | await | unregister | forgotten _ =>
      exact ⟨rfl, w, hw, rfl, .inl ⟨.refl w, .inl rfl⟩⟩
  | task ht hm => exact hm.apart (hother rfl ht) (fun n => hb.number_iff ht) hw
  | @expired task _ _ n v ht hv | @cancelled task _ _ n v ht hv =>
      have hne : n ≠ number := fun h =>
        (hother rfl ht).elim nofun fun hid => hid ((hb.number_iff ht rfl).mp h)
      exact ⟨rfl, w, by simp [hne, hw], rfl, .inl ⟨.refl w, .inl rfl⟩⟩

/-- What others leave of a wait: it may have accepted a reply, and has not changed otherwise. -/
structure Apart (id : CorrelationId) (number size : Nat) (arrived arrived' : List α)
    (c c' : Collector α) (w w' : Wait α) : Prop where
  standing : Standing id number size arrived' c' w'
  claimed : w'.claimed = w.claimed
  find? : c'.registry.find? id = c.registry.find? id
  status : w'.status = w.status ∨ w.status = .collecting ∧ w'.status = .complete
  take_eq : w.status ≠ .collecting → arrived'.take size = arrived.take size
  eq_of_closed : w.status = .closed → arrived' = arrived

namespace Standing

variable {id : CorrelationId} {number size : Nat} {arrived : List α} {c c' : Collector α}
  {w : Wait α} {a : CollectorAction α}

/-- A wait that has all its replies has had as many arrivals. -/
theorem size_le (h : Standing id number size arrived c w) (hc : w.isComplete = true) :
    size ≤ arrived.length := by
  have := h.holds.isComplete_iff.mp hc
  rw [h.expected, List.length_take] at this
  omega

/-- A wait that does not have all its replies has had fewer arrivals. -/
theorem length_lt (h : Standing id number size arrived c w) (hc : w.isComplete = false) :
    arrived.length < size := by
  have : (arrived.take size).length ≠ size := fun hlen => by
    rw [h.holds.isComplete_iff.mpr (hlen.trans h.expected.symm)] at hc
    cases hc
  rw [List.length_take] at this
  omega

/-- Arrivals are not counted once the wait has been closed. -/
theorem arrival?_of_closed (h : Standing id number size arrived c w) (hc : w.status = .closed) :
    c.arrival? id number a = none := by
  simp [Collector.arrival?, h.wait, hc]

theorem arrival?_of_not_closed (h : Standing id number size arrived c w)
    (hc : w.status ≠ .closed) :
    c.arrival? id number a = (c.event? a).bind (ReplyEvent.decides? id) := by
  simp [Collector.arrival?, h.wait, hc]

/-- Arrivals behind the last reply that a wait can accept change nothing. -/
theorem take_concat (h : Standing id number size arrived c w) (hc : w.status ≠ .collecting) :
    (arrived ++ (c.arrival? id number a).toList).take size = arrived.take size := by
  by_cases hcl : w.status = .closed
  · rw [h.arrival?_of_closed hcl, Option.toList_none, List.append_nil]
  · have hcomplete : w.isComplete = true := by
      cases hs : w.status <;> simp_all [Wait.isComplete]
    exact List.take_append_of_le_length (h.size_le hcomplete)

/-- A wait that has stopped collecting stands whatever moves. -/
theorem settled (h : Standing id number size arrived c w) (hm : c.Moves a c')
    (ha : ∀ expected, a ≠ .register id expected) (hc : w.status ≠ .collecting) :
    ∃ w', Standing id number size (arrived ++ (c.arrival? id number a).toList) c' w' ∧
      w.Evolves [] w' := by
  obtain ⟨w', hw', he⟩ := hm.evolves h.wait
  obtain ⟨hnil, hc'⟩ := he.settled hc
  rw [hnil] at he
  refine ⟨w', ⟨h.belongs.move hm ha, hw', he.expected.trans h.expected, ?_, fun h => absurd h hc'⟩,
    he⟩
  rw [h.take_concat hc]
  simpa using he.holds h.holds

/-- **Moves of others leave a wait as it is**, but for the reply it may accept. -/
theorem apart (h : Standing id number size arrived c w) (hm : c.Moves a c') {own : Option Nat}
    (hs : c.ServedBy id own) (ha : a.claims? ≠ some id)
    (hown : ∀ task, own = some task → a.task? ≠ some task) :
    ∃ w', Apart id number size arrived (arrived ++ (c.arrival? id number a).toList) c c' w w' := by
  have hbelongs := h.belongs.move hm fun expected heq => ha (by rw [heq]; rfl)
  obtain ⟨hf, w', hw', hcl, ⟨hsame, hdec⟩ | ⟨hcol, item, hdec, rfl⟩⟩ :=
    hm.apart h.belongs hs ha hown h.wait
  · have hnone : w.status = .collecting → c.arrival? id number a = none := by
      intro hcol
      rw [h.arrival?_of_not_closed (by simp [hcol])]
      rcases hdec with hdec | hne | hfn
      · exact hdec
      · exact absurd hcol hne
      · rw [h.entry hcol] at hfn
        cases hfn
    have htake : (arrived ++ (c.arrival? id number a).toList).take size = arrived.take size := by
      by_cases hcol : w.status = .collecting
      · rw [hnone hcol, Option.toList_none, List.append_nil]
      · exact h.take_concat hcol
    refine ⟨w', ⟨hbelongs, hw', hsame.expected.trans h.expected, htake ▸ h.holds.same hsame, ?_⟩,
      hcl, hf, .inl hsame.status, fun _ => htake, ?_⟩
    · exact fun hcol => hf.trans (h.entry (hsame.status ▸ hcol))
    · intro hclosed
      rw [h.arrival?_of_closed hclosed, Option.toList_none, List.append_nil]
  · have hlt : arrived.length < size := h.length_lt (by simp [Wait.isComplete, hcol])
    have harr : c.arrival? id number a = some item := by
      rw [h.arrival?_of_not_closed (by simp [hcol]), hdec]
    have htake : (arrived ++ (c.arrival? id number a).toList).take size =
        arrived.take size ++ [item] := by
      rw [harr, List.take_of_length_le (Nat.le_of_lt hlt),
        List.take_of_length_le (by simpa using Nat.succ_le_of_lt hlt)]
      rfl
    refine ⟨(w.append item).2, ⟨hbelongs, hw', by simpa using h.expected,
      htake ▸ h.holds.append hcol item, fun _ => hf.trans (h.entry hcol)⟩, hcl, hf, ?_,
      fun hne => absurd hcol hne, fun hclosed => by simp [hcol] at hclosed⟩
    rw [Wait.append_status hcol, hcol]
    split <;> simp

end Standing

/-! ### The course of a call that waits -/

/-- Replies are accepted, or all of them are there to be taken. -/
def InTime (id : CorrelationId) (number : Nat) (c : Collector α) (w : Wait α) : Prop :=
  (w.status = .collecting ∨ w.status = .complete) ∧ c.registry.find? id = some number

/-- What a call gets that waits for the replies of an id. -/
inductive AwaitResult (id : CorrelationId) (timeout : Duration) (size : Nat) (arrived : List α)
    (w : Wait α) : Except ExecutionError (List α) → Prop where
  | replies (h : w.status = .delivered) :
    AwaitResult id timeout size arrived w (.ok (arrived.take size))
  | late (h : w.status = .closed) :
    AwaitResult id timeout size arrived w (.error (.timeout id timeout arrived.length size))

/-- Where a call stands that waits for the replies of an id, and what is true of the wait there. -/
inductive AwaitCourse (id : CorrelationId) (timeout : Duration) (number size : Nat)
    (arrived : List α) (c : Collector α) (w : Wait α) : AwaitStage α → Prop where
  | finding (hc : w.claimed = false) (ht : InTime id number c w) :
    AwaitCourse id timeout number size arrived c w .finding
  | claiming (hc : w.claimed = false) (ht : InTime id number c w) :
    AwaitCourse id timeout number size arrived c w (.claiming number)
  | waiting {stage} (hs : stage = .checking ∨ stage = .parking ∨ stage = .parked ∨
    stage = .closing) (ht : InTime id number c w) :
    AwaitCourse id timeout number size arrived c w (.waiting number stage)
  | lastLook (h : w.status = .complete ∨ w.status = .closed) :
    AwaitCourse id timeout number size arrived c w (.waiting number .lastLook)
  | taken (h : w.status = .delivered) :
    AwaitCourse id timeout number size arrived c w
      (.waiting number (.ended (some (arrived.take size))))
  | missed (h : w.status = .closed) :
    AwaitCourse id timeout number size arrived c w (.waiting number (.ended none))
  | removing {result} (h : AwaitResult id timeout size arrived w result) :
    AwaitCourse id timeout number size arrived c w (.removing result)
  | closing {m result} (h : AwaitResult id timeout size arrived w result) :
    AwaitCourse id timeout number size arrived c w (.closing m result)
  | ended {result} (h : AwaitResult id timeout size arrived w result) :
    AwaitCourse id timeout number size arrived c w (.ended result)

/-- The call has been given up. -/
def AwaitStage.isGivenUp : AwaitStage α → Bool
  | .leaving | .sweeping _ | .gone => true
  | _ => false

namespace Apart

variable {id : CorrelationId} {timeout : Duration} {number size : Nat} {arrived arrived' : List α}
  {c c' : Collector α} {w w' : Wait α}

/-- Others do not keep a call from its replies. -/
theorem inTime (h : Apart id number size arrived arrived' c c' w w')
    (ht : InTime id number c w) : InTime id number c' w' := by
  refine ⟨?_, h.find?.trans ht.2⟩
  rcases h.status with hs | ⟨-, hs⟩
  · exact hs ▸ ht.1
  · exact .inr hs

/-- A status that is not the one of collecting stays. -/
theorem status_eq (h : Apart id number size arrived arrived' c c' w w') {status : WaitStatus}
    (hs : w.status = status) (hne : status ≠ .collecting) : w'.status = status :=
  h.status.elim (fun heq => heq.trans hs) fun hcol => absurd (hs.symm.trans hcol.1) hne

/-- The result of a call stays what it is. -/
theorem result (h : Apart id number size arrived arrived' c c' w w')
    {result : Except ExecutionError (List α)}
    (hr : AwaitResult id timeout size arrived w result) :
    AwaitResult id timeout size arrived' w' result := by
  cases hr with
  | replies hs =>
      rw [← h.take_eq (by simp [hs])]
      exact .replies (h.status_eq hs nofun)
  | late hs =>
      rw [← h.eq_of_closed hs]
      exact .late (h.status_eq hs nofun)

/-- Moves of others leave a call on its course. -/
theorem course (h : Apart id number size arrived arrived' c c' w w') {stage : AwaitStage α}
    (hs : AwaitCourse id timeout number size arrived c w stage) :
    AwaitCourse id timeout number size arrived' c' w' stage := by
  cases hs with
  | finding hc ht => exact .finding (h.claimed.trans hc) (h.inTime ht)
  | claiming hc ht => exact .claiming (h.claimed.trans hc) (h.inTime ht)
  | waiting hs ht => exact .waiting hs (h.inTime ht)
  | lastLook hs =>
      exact .lastLook (hs.imp (h.status_eq · nofun) (h.status_eq · nofun))
  | taken hs =>
      rw [← h.take_eq (by simp [hs])]
      exact .taken (h.status_eq hs nofun)
  | missed hs => exact .missed (h.status_eq hs nofun)
  | removing hr => exact .removing (h.result hr)
  | closing hr => exact .closing (h.result hr)
  | ended hr => exact .ended (h.result hr)

end Apart

/-- A closed wait stays closed. -/
theorem Wait.Evolves.keeps_closed {w w' : Wait α} {items : List α} (h : w.Evolves items w')
    (hw : w.status = .closed) : w'.status = .closed := by
  cases h with
  | same h _ => exact h.status.trans hw
  | appended h _ => simp [hw] at h
  | taken => simp [take?_of_not_complete, hw]
  | closed => simp [close_of_not_collecting, hw]

/-- A call that waits decides nothing about replies. -/
theorem TaskMoves.decides?_eq_none {task : Nat} {r r' : Registry α} {t t' : RegistryTask α}
    {event : Option (ReplyEvent α)} (h : TaskMoves task r t event t' r') (ho : t.isOffer = false)
    (id : CorrelationId) : event.bind (ReplyEvent.decides? id) = none := by
  cases h with
  | @waits _ _ _ _ taken _ _ _ _ _ => cases taken <;> rfl
  | found _ | unknown _ | accepted _ _ | refused _ _ => cases ho
  | _ => rfl

namespace Standing

variable {id : CorrelationId} {timeout : Duration} {number size : Nat} {arrived : List α}
  {c c' : Collector α} {w w' : Wait α} {a : CollectorAction α}

/-- A wait stands whose replies are the same. -/
theorem same (h : Standing id number size arrived c w) (hb : c'.Belongs number id)
    (hw' : c'.registry.wait? number = some w') (hs : w.SameReplies w')
    (hf : c'.registry.find? id = c.registry.find? id) :
    Standing id number size arrived c' w' :=
  ⟨hb, hw', hs.expected.trans h.expected, h.holds.same hs,
    fun hc => hf.trans (h.entry (hs.status ▸ hc))⟩

/-- A wait stands that collects no more. -/
theorem stopped (h : Standing id number size arrived c w) (hb : c'.Belongs number id)
    (hw' : c'.registry.wait? number = some w') (he : w.Evolves [] w')
    (hs : w'.status ≠ .collecting) : Standing id number size arrived c' w' :=
  ⟨hb, hw', he.expected.trans h.expected, by simpa using he.holds h.holds,
    fun hc => absurd hc hs⟩

/-- The result of a call stays what it is, whatever moves. -/
theorem result (h : Standing id number size arrived c w)
    (hm : c.Moves a c') (ha : ∀ expected, a ≠ .register id expected)
    {result : Except ExecutionError (List α)}
    (hr : AwaitResult id timeout size arrived w result) :
    ∃ w', Standing id number size (arrived ++ (c.arrival? id number a).toList) c' w' ∧
      AwaitResult id timeout size (arrived ++ (c.arrival? id number a).toList) w' result := by
  have hc : w.status ≠ .collecting := by cases hr <;> simp [*]
  obtain ⟨w', hw', he⟩ := h.settled hm ha hc
  refine ⟨w', hw', ?_⟩
  cases hr with
  | replies hs =>
      rw [← h.take_concat (a := a) hc]
      exact .replies (he.delivered hs)
  | late hs =>
      rw [h.arrival?_of_closed hs, Option.toList_none, List.append_nil]
      exact .late (he.keeps_closed hs)

/-- A step on the wait keeps a call on its course. -/
theorem waits (h : Standing id number size arrived c w) {call : Nat} {stage stage' : WaitStage α}
    {taken : Option (List α)} (hm : WaitMoves call w stage taken stage' w')
    (hs : AwaitCourse id timeout number size arrived c w (.waiting number stage))
    (hb : c'.Belongs number id) (hw' : c'.registry.wait? number = some w')
    (hf : c'.registry.find? id = c.registry.find? id) :
    Standing id number size arrived c' w' ∧
      AwaitCourse id timeout number size arrived c' w' (.waiting number stage') := by
  cases hm with
  | took hc =>
      have hd : w.take?.2.status = .delivered := by simp [Wait.take?_of_complete hc]
      rw [h.holds.collected (by simp [hc])]
      exact ⟨h.stopped hb hw' .taken (by simp [hd]), .taken hd⟩
  | missed _ | resumed _ | queued _ | woken _ =>
      cases hs with
      | waiting _ ht =>
          exact ⟨h.same hb hw' ⟨rfl, rfl, rfl, rfl⟩ hf,
            .waiting (by simp) ⟨ht.1, hf.trans ht.2⟩⟩
  | shut =>
      cases hs with
      | waiting _ ht =>
          refine ⟨h.stopped hb hw' .closed w.close_status_ne, .lastLook ?_⟩
          rcases ht.1 with hc | hc <;> simp [Wait.close, hc]
  | looked =>
      cases hs with
      | waiting hs _ => simp at hs
      | lastLook hs =>
          rcases hs with hc | hc
          · have htaken : w.take?.1 = some (arrived.take size) := by
              rw [Wait.take?_of_complete hc, h.holds.collected (by simp [hc])]
            have hd : w.take?.2.status = .delivered := by simp [Wait.take?_of_complete hc]
            rw [htaken]
            exact ⟨h.stopped hb hw' .taken (by simp [hd]), .taken hd⟩
          · have htake : w.take? = (none, w) := Wait.take?_of_not_complete (by simp [hc])
            rw [htake] at hw' ⊢
            exact ⟨h.stopped hb hw' (.refl w) (by simp [hc]), .missed hc⟩

/-- What a call has got that goes on with what it was handed. -/
theorem awaitResult (h : Standing id number size arrived c w) {items : Option (List α)}
    (hs : AwaitCourse id timeout number size arrived c w (.waiting number (.ended items))) :
    AwaitResult id timeout size arrived w (Collector.awaitResult id timeout w items).1 := by
  cases hs with
  | waiting hs _ => simp at hs
  | taken hd => exact .replies hd
  | missed hc =>
      have hlt := h.length_lt (by simp [Wait.isComplete, hc])
      have hacc : w.accepted = arrived.length := by
        rw [h.holds.accepted, List.take_of_length_le (Nat.le_of_lt hlt)]
      rw [Collector.awaitResult, hacc, h.expected]
      exact .late hc

/-- **A call stays on its course** by its own steps and by its deadline, unless it is given up. -/
theorem own (h : Standing id number size arrived c w) (hm : c.Moves a c') {task : Nat}
    {stage : AwaitStage α} (hat : a.task? = some task)
    (ht : c.tasks[task]? = some (.await id timeout stage))
    (hs : AwaitCourse id timeout number size arrived c w stage) :
    ∃ stage', c'.tasks[task]? = some (.await id timeout stage') ∧
      (stage'.isGivenUp = true ∨
        ∃ w', Standing id number size (arrived ++ (c.arrival? id number a).toList) c' w' ∧
          AwaitCourse id timeout number size (arrived ++ (c.arrival? id number a).toList) c' w'
            stage') := by
  have hreg : ∀ expected, a ≠ .register id expected := fun expected heq => by
    rw [heq] at hat
    cases hat
  have hb := h.belongs.move hm hreg
  have hres : ∀ {result : Except ExecutionError (List α)},
      AwaitResult id timeout size arrived w result →
      ∃ w', Standing id number size (arrived ++ (c.arrival? id number a).toList) c' w' ∧
        AwaitResult id timeout size (arrived ++ (c.arrival? id number a).toList) w' result :=
    h.result hm hreg
  have hset : ∀ (u : RegistryTask α), (c.tasks.set task u)[task]? = some u := fun u =>
    List.getElem?_set_self (List.getElem?_eq_some_iff.mp ht).1
  cases hm with
  | registered _ | occupied _ | offer | await | unregister => cases hat
  | @expired task' _ _ n v ht' hw =>
      cases hat
      cases Option.some.inj (ht.symm.trans ht')
      obtain rfl : n = number := (h.belongs.number_iff ht rfl).mpr rfl
      obtain rfl : w = v := Option.some.inj (h.wait.symm.trans hw)
      have hnone : c.arrival? id n (.expire task) = none := ite_self none
      rw [hnone, Option.toList_none, List.append_nil]
      cases hs with
      | waiting _ hin =>
          have hsame := w.sameReplies_leave task
          exact ⟨_, hset _, .inr ⟨w.leave task, h.same hb (by simp [hw]) hsame rfl,
            .waiting (by simp) ⟨hsame.status ▸ hin.1, hin.2⟩⟩⟩
  | cancelled ht' _ =>
      cases hat
      cases Option.some.inj (ht.symm.trans ht')
      exact ⟨_, hset _, .inl rfl⟩
  | forgotten ht' =>
      cases hat
      cases Option.some.inj (ht.symm.trans ht')
      exact ⟨_, hset _, .inl rfl⟩
  | task ht' hm =>
      cases hat
      obtain rfl := Option.some.inj (ht.symm.trans ht')
      have hnone : c.arrival? id number (.advance task) = none := by
        rw [Collector.arrival?, hm.decides?_eq_none rfl]
        split <;> rfl
      simp only [hnone, Option.toList_none, List.append_nil] at hres ⊢
      generalize c.event? (.advance task) = event at hm
      cases hm with
      | awaitFound hf =>
          cases hs with
          | finding hc hin =>
              obtain rfl := Option.some.inj (hin.2.symm.trans hf)
              exact ⟨_, hset _, .inr ⟨w, h.same hb h.wait (.refl w) rfl, .claiming hc hin⟩⟩
      | awaitUnknown hf =>
          cases hs with
          | finding _ hin =>
              rw [hin.2] at hf
              cases hf
      | claimed hw _ =>
          cases hs with
          | claiming _ hin =>
              obtain rfl := Option.some.inj (h.wait.symm.trans hw)
              exact ⟨_, hset _, .inr ⟨w.claim.2, h.same hb (by simp [hw]) w.sameReplies_claim rfl,
                .waiting (.inl rfl) hin⟩⟩
      | awaited hw hc =>
          cases hs with
          | claiming hc' _ =>
              obtain rfl := Option.some.inj (h.wait.symm.trans hw)
              simp [hc'] at hc
      | @waits _ _ n _ _ _ _ _ hw hm =>
          obtain rfl : n = number := (h.belongs.number_iff ht rfl).mpr rfl
          obtain rfl := Option.some.inj (h.wait.symm.trans hw)
          exact ⟨_, hset _, .inr ⟨_, h.waits hm hs hb (by simp [hw]) rfl⟩⟩
      | @returned _ _ n _ _ hw =>
          obtain rfl : n = number := (h.belongs.number_iff ht rfl).mpr rfl
          obtain rfl := Option.some.inj (h.wait.symm.trans hw)
          exact ⟨_, hset _, .inr ⟨w, h.same hb h.wait (.refl w) rfl, .removing (h.awaitResult hs)⟩⟩
      | removed _ =>
          cases hs with
          | removing hr =>
              obtain ⟨w', hst, hr'⟩ := hres hr
              exact ⟨_, hset _, .inr ⟨w', hst, .closing hr'⟩⟩
      | absent _ =>
          cases hs with
          | removing hr =>
              obtain ⟨w', hst, hr'⟩ := hres hr
              exact ⟨_, hset _, .inr ⟨w', hst, .ended hr'⟩⟩
      | shut =>
          cases hs with
          | closing hr =>
              obtain ⟨w', hst, hr'⟩ := hres hr
              exact ⟨_, hset _, .inr ⟨w', hst, .ended hr'⟩⟩
      | left _ | leftNothing _ | swept => exact ⟨_, hset _, .inl rfl⟩

end Standing

end ScatterGather
