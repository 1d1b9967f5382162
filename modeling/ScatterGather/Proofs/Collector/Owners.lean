import ScatterGather.Proofs.Collector.Moves

/-!
# Whose wait it is

The waits of a registry are numbered in the order of their registrations, and a number is never
given twice, so the ids that were registered, in order, say for good under which id each wait was
registered (`Collector.owners`). Whatever names a wait by its number, be it an entry, a task on its
way or an event, does so on behalf of that id (`Owned`): an offer that lingers behind its lookup
cannot reach a later wait, and never one of another id.
-/

namespace ScatterGather

variable {α : Type}

namespace RegistryTask

/-- The id on whose behalf a task runs. -/
def id : RegistryTask α → CorrelationId
  | offer id _ | await id _ _ | unregister id _ => id

/-- The number of the wait that a task holds. -/
def number? : RegistryTask α → Option Nat
  | offer _ (.appending number _) | offer _ (.waking number) => some number
  | await _ _ (.claiming number) | await _ _ (.waiting number _) | await _ _ (.closing number _)
  | await _ _ (.sweeping number) => some number
  | unregister _ (.closing number) => some number
  | _ => none

/-- The next step of a task takes away whatever is registered under its id. -/
def removes : RegistryTask α → Bool
  | await _ _ (.removing _) | await _ _ .leaving | unregister _ .removing => true
  | _ => false

end RegistryTask

/-- The id and the number of the wait that an event is about. -/
def ReplyEvent.target? : ReplyEvent α → Option (CorrelationId × Nat)
  | found _ id number | accepted _ id number _ | delivered _ id number _ => some (id, number)
  | offered .. | refused .. => none

/-! ### What moves do to names and numbers -/

namespace Registry

variable {r : Registry α}

@[simp] theorem length_setWait (number : Nat) (w : Wait α) :
    (r.setWait number w).waits.length = r.waits.length := List.length_set ..

@[simp] theorem length_close (number : Nat) :
    (r.close number).waits.length = r.waits.length := List.length_modify ..

@[simp] theorem length_remove (id : CorrelationId) :
    (r.remove id).2.waits.length = r.waits.length := rfl

@[simp] theorem length_discard : r.discard.waits.length = r.waits.length := rfl

/-- An entry of another id is passed over. -/
theorem lookup_cons_of_ne {id key : CorrelationId} (h : id ≠ key) (number : Nat)
    (rest : List (CorrelationId × Nat)) :
    ((key, number) :: rest).lookup id = rest.lookup id := by
  rw [List.lookup_cons, beq_false_of_ne h]

/-- A removal takes away the entry of its id and no other. -/
theorem find?_remove (id id' : CorrelationId) :
    (r.remove id).2.find? id' = if id' = id then none else r.find? id' := by
  unfold remove find?
  dsimp only
  induction r.entries with
  | nil => simp
  | cons entry rest ih =>
      obtain ⟨key, number⟩ := entry
      by_cases hk : key = id
      · subst hk
        rw [List.filter_cons_of_neg (by simp), ih]
        split
        · rfl
        · next hne => rw [lookup_cons_of_ne hne]
      · rw [List.filter_cons_of_pos (by simpa using hk)]
        by_cases hi : id' = key
        · subst hi
          simp [hk]
        · rw [lookup_cons_of_ne hi, lookup_cons_of_ne hi, ih]

theorem wait?_setWait_of_ne {number m : Nat} (h : m ≠ number) (w : Wait α) :
    (r.setWait number w).wait? m = r.wait? m := by
  rw [wait?_setWait, if_neg h.symm]

theorem wait?_close_of_ne {number m : Nat} (h : m ≠ number) :
    (r.close number).wait? m = r.wait? m := by
  rw [wait?_close, if_neg h.symm]

/-- An entry of a new wait leaves the other entries as they were. -/
theorem find?_enter {id : CorrelationId} (h : r.find? id = none) (expected : Nat)
    (id' : CorrelationId) :
    (r.enter id expected).find? id' = if id' = id then some r.waits.length else r.find? id' := by
  unfold enter find?
  rw [find?] at h
  dsimp only
  rw [List.lookup_append]
  by_cases hi : id' = id
  · subst hi
    simp [h]
  · rw [lookup_cons_of_ne hi, if_neg hi, List.lookup_nil, Option.or_none]

end Registry

namespace TaskMoves

variable {task n : Nat} {r r' : Registry α} {t t' : RegistryTask α} {event : Option (ReplyEvent α)}

/-- A task runs on behalf of one id for good. -/
theorem id_eq (h : TaskMoves task r t event t' r') : t'.id = t.id := by
  cases h <;> rfl

/-- An offer stays an offer, and no other task becomes one. -/
theorem isOffer_eq (h : TaskMoves task r t event t' r') : t'.isOffer = t.isOffer := by
  cases h <;> rfl

/-- No wait is added or removed. -/
theorem length_eq (h : TaskMoves task r t event t' r') : r'.waits.length = r.waits.length := by
  cases h <;> simp

/-- A task gets the number of a wait by looking its id up. -/
theorem number?_eq (h : TaskMoves task r t event t' r') (hn : t'.number? = some n) :
    t.number? = some n ∨ r.find? t.id = some n := by
  cases h with
  | found h | awaitFound h | removed h | left h | unregistered h =>
      cases hn
      exact .inr h
  | accepted _ _ =>
      split at hn <;> cases hn
      exact .inl rfl
  | claimed _ _ | waits _ _ =>
      cases hn
      exact .inl rfl
  | unknown _ | refused _ _ | woke _ | awaitUnknown _ | awaited _ _ | returned _ | absent _ | shut
  | leftNothing _ | swept | notRegistered _ | unregisterShut => cases hn

/-- An event is about a wait that its task holds or has just found. -/
theorem target?_eq {e : ReplyEvent α} {id : CorrelationId}
    (h : TaskMoves task r t (some e) t' r') (he : e.target? = some (id, n)) :
    id = t.id ∧ (t.number? = some n ∨ r.find? t.id = some n) := by
  generalize hev : some e = event at h
  cases h with
  | found h =>
      cases hev
      cases he
      exact ⟨rfl, .inr h⟩
  | accepted _ _ =>
      cases hev
      cases he
      exact ⟨rfl, .inl rfl⟩
  | @waits _ _ _ _ taken _ _ _ _ _ =>
      cases taken <;> cases hev
      cases he
      exact ⟨rfl, .inl rfl⟩
  | unknown _ | refused _ _ =>
      cases hev
      cases he
  | _ => cases hev

/-- A task may take away the entry of its own id, and leaves all others as they are. -/
theorem find?_step (h : TaskMoves task r t event t' r') (id : CorrelationId) :
    r'.find? id = if id = t.id ∧ t.removes = true then none else r.find? id := by
  cases h with
  | removed _ | absent _ | left _ | leftNothing _ | unregistered _ | notRegistered _ =>
      rw [Registry.find?_remove]
      simp [RegistryTask.removes, RegistryTask.id]
  | found _ | unknown _ | accepted _ _ | refused _ _ | woke _ | awaitFound _ | awaitUnknown _
  | claimed _ _ | awaited _ _ | waits _ _ | returned _ | shut | swept | unregisterShut =>
      simp [RegistryTask.removes]

/-- No entry is added or changed. -/
theorem find?_eq (h : TaskMoves task r t event t' r') {id : CorrelationId}
    (hf : r'.find? id = some n) : r.find? id = some n := by
  rw [h.find?_step] at hf
  split at hf
  · cases hf
  · exact hf

/-- A task touches no wait but the one that it holds. -/
theorem wait?_of_ne (h : TaskMoves task r t event t' r') (hn : t.number? ≠ some n) :
    r'.wait? n = r.wait? n := by
  cases h with
  | found _ | unknown _ | refused _ _ | awaitFound _ | awaitUnknown _ | awaited _ _ | returned _
  | removed _ | absent _ | left _ | leftNothing _ | unregistered _ | notRegistered _ => rfl
  | accepted _ _ | woke _ | claimed _ _ | waits _ _ =>
      exact Registry.wait?_setWait_of_ne (fun h => hn (congrArg some h.symm)) _
  | shut | swept | unregisterShut =>
      exact Registry.wait?_close_of_ne fun h => hn (congrArg some h.symm)

end TaskMoves

/-- A task stays what it is in a move of the collector. -/
theorem Collector.Moves.task_kept {s s' : Collector α} {a : CollectorAction α} (h : s.Moves a s')
    {task : Nat} {t : RegistryTask α} (ht : s.tasks[task]? = some t) :
    ∃ t', s'.tasks[task]? = some t' ∧ t'.isOffer = t.isOffer ∧ t'.id = t.id := by
  obtain ⟨t', ht', rfl | ⟨-, hm⟩ | ⟨-, hi⟩⟩ := h.task_cases ht
  · exact ⟨t', ht', rfl, rfl⟩
  · exact ⟨t', ht', hm.isOffer_eq, hm.id_eq⟩
  · cases hi <;> exact ⟨_, ht', rfl, rfl⟩

/-- No move of a collector gives a correlation id. -/
theorem Collector.Moves.nextId_eq {s s' : Collector α} {a : CollectorAction α}
    (h : s.Moves a s') : s'.registry.nextId = s.registry.nextId := by
  cases h with
  | task _ hm =>
      generalize s.event? _ = event at hm
      cases hm <;> rfl
  | _ => rfl

/-! ### Owners along a run -/

namespace Collector

/-- The id that an action registers. -/
def registers? (s : Collector α) : CollectorAction α → Option CorrelationId
  | .register id _ => if s.registry.find? id = none then some id else none
  | _ => none

/-- An entry was there before, or has just been registered. -/
theorem Moves.find?_cases {s s' : Collector α} {a : CollectorAction α} (h : s.Moves a s')
    {id : CorrelationId} {n : Nat} (hf : s'.registry.find? id = some n) :
    s.registry.find? id = some n ∨ s.registers? a = some id ∧ n = s.registry.waits.length := by
  cases h with
  | @registered id' _ hfree =>
      rw [Registry.find?_enter hfree] at hf
      split at hf
      · next heq =>
          cases hf
          exact .inr ⟨by rw [registers?, if_pos hfree, heq], rfl⟩
      · exact .inl hf
  | task _ hm => exact .inl (hm.find?_eq hf)
  | occupied _ | offer | await | unregister | expired _ _ | cancelled _ _ | forgotten _ =>
      exact .inl hf

/-- The ids that were registered along a run, in order. -/
def owners (s : Collector α) (actions : List (CollectorAction α)) : List CorrelationId :=
  emitted step registers? s actions

end Collector

/-- The wait of each number belongs to the id in that place, and so does whatever names it. -/
structure Owned (owners : List CorrelationId) (events : List (ReplyEvent α)) (s : Collector α) :
    Prop where
  length_eq : owners.length = s.registry.waits.length
  entry : ∀ {id n}, s.registry.find? id = some n → owners[n]? = some id
  task : ∀ {task n : Nat} {t : RegistryTask α}, s.tasks[task]? = some t → t.number? = some n →
    owners[n]? = some t.id
  event : ∀ {e : ReplyEvent α} {id : CorrelationId} {n : Nat}, e ∈ events →
    e.target? = some (id, n) → owners[n]? = some id

namespace Owned

variable {owners : List CorrelationId} {events : List (ReplyEvent α)} {s s' : Collector α}
  {a : CollectorAction α}

/-- In the beginning there is nothing to own. -/
theorem empty : Owned [] [] (Collector.empty : Collector α) where
  length_eq := rfl
  entry h := by simp [Collector.empty, Registry.empty, Registry.find?] at h
  task h := by simp [Collector.empty] at h
  event h := by simp at h

/-- Tasks that begin hold no wait. -/
theorem spawn (hO : Owned owners events s) {t : RegistryTask α} (ht : t.number? = none) :
    Owned owners events (s.spawn t) where
  length_eq := hO.length_eq
  entry := hO.entry
  task h hn := by
    rcases Collector.task_of_spawn h with h | ⟨-, rfl⟩
    · exact hO.task h hn
    · simp [ht] at hn
  event := hO.event

/-- Events without a wait change nothing. -/
theorem concat (hO : Owned owners events s) {e : ReplyEvent α} (he : e.target? = none) :
    Owned owners (events ++ [e]) s where
  length_eq := hO.length_eq
  entry := hO.entry
  task := hO.task
  event h hn := by
    rcases List.mem_append.mp h with h | h
    · exact hO.event h hn
    · obtain rfl := List.mem_singleton.mp h
      simp [he] at hn

/-- A task that keeps its id and its wait, or gives its wait up. -/
theorem put (hO : Owned owners events s) {task : Nat} {t t' : RegistryTask α} {r : Registry α}
    (lines : List LogLine) (ht : s.tasks[task]? = some t) (hid : t'.id = t.id)
    (hn : ∀ n, t'.number? = some n → t.number? = some n ∨ s.registry.find? t.id = some n)
    (hl : r.waits.length = s.registry.waits.length)
    (hf : ∀ {id n}, r.find? id = some n → s.registry.find? id = some n) :
    Owned owners events (s.put task t' r lines) where
  length_eq := hO.length_eq.trans hl.symm
  entry h := hO.entry (hf h)
  task h hn' := by
    rcases Collector.task_of_put h with ⟨rfl, rfl⟩ | ⟨-, h⟩
    · rw [hid]
      exact (hn _ hn').elim (hO.task ht) hO.entry
    · exact hO.task h hn'
  event := hO.event

/-- A new wait belongs to the id that is registered. -/
theorem register (hO : Owned owners events s) {id : CorrelationId} (expected : Nat)
    (h : s.registry.find? id = none) :
    Owned (owners ++ [id]) events { s with registry := s.registry.enter id expected } := by
  refine ⟨by simp [hO.length_eq, Registry.enter], ?_,
    fun h hn => getElem?_append_of_eq_some (hO.task h hn),
    fun h hn => getElem?_append_of_eq_some (hO.event h hn)⟩
  intro id' n hf
  rw [Registry.find?_enter h] at hf
  split at hf
  · next heq =>
      cases hf
      simp [← hO.length_eq, heq]
  · exact getElem?_append_of_eq_some (hO.entry hf)

/-- Taking an id leaves the waits with their owners. -/
theorem takeId (hO : Owned owners events s) :
    Owned owners events { s with registry := s.registry.takeId.2 } :=
  ⟨hO.length_eq, hO.entry, hO.task, hO.event⟩

/-- Every move leaves the waits with their owners. -/
theorem move (hO : Owned owners events s) (hm : s.Moves a s') :
    Owned (owners ++ (s.registers? a).toList) (events ++ (s.event? a).toList) s' := by
  cases hm with
  | @registered id expected h =>
      simpa [Collector.registers?, Collector.event?, h] using hO.register expected h
  | occupied h => simpa [Collector.registers?, Collector.event?, h] using hO
  | offer => simpa [Collector.registers?, Collector.event?] using (hO.spawn rfl).concat rfl
  | await | unregister => simpa [Collector.registers?, Collector.event?] using hO.spawn rfl
  | @task _ _ _ _ lines ht hm =>
      have hput := hO.put lines ht hm.id_eq (fun n => hm.number?_eq) hm.length_eq hm.find?_eq
      refine ⟨?_, ?_, ?_, ?_⟩
      all_goals simp only [Collector.registers?, Option.toList_none, List.append_nil]
      · exact hput.length_eq
      · exact hput.entry
      · exact hput.task
      · intro e id n he hn
        rcases List.mem_append.mp he with he | he
        · exact hO.event he hn
        · rw [Option.mem_toList] at he
          rw [he] at hm
          obtain ⟨rfl, h⟩ := hm.target?_eq hn
          exact h.elim (hO.task ht) hO.entry
  | expired ht _ =>
      simp only [Collector.registers?, Collector.event?, Option.toList_none, List.append_nil]
      exact hO.put [] ht rfl (fun n => .inl) (Registry.length_setWait _ _) id
  | cancelled ht _ =>
      simp only [Collector.registers?, Collector.event?, Option.toList_none, List.append_nil]
      exact hO.put [] ht rfl (fun n hn => by cases hn) (Registry.length_setWait _ _) id
  | forgotten ht =>
      simp only [Collector.registers?, Collector.event?, Option.toList_none, List.append_nil]
      exact hO.put [] ht rfl (fun n hn => by cases hn) rfl id

end Owned

/-- **Every wait has one owner for good.** -/
theorem owned_of_run {actions : List (CollectorAction α)} {s : Collector α}
    (h : Collector.empty.run actions = some s) :
    Owned (Collector.empty.owners actions) (Collector.empty.history actions) s := by
  refine foldlM_induction
    (P := fun actions s => Owned (Collector.empty.owners actions)
      (Collector.empty.history actions) s) .empty ?_ h
  intro _ _ _ _ hrun hO hstep
  rw [Collector.history_concat hrun, Collector.owners, emitted_concat hrun]
  exact hO.move (Collector.moves_of_step hstep)

end ScatterGather
