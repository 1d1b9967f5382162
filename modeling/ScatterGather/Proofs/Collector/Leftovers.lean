import ScatterGather.Proofs.Collector.ExactlyOnce
import ScatterGather.Proofs.Collector.Standing

/-!
# What is left of an earlier registration

An id may be registered again once its earlier wait is gone, while calls that waited for that one,
and the guards of its registration, are still on their way (`Leftover`). They know the id and at
most the number of the earlier wait. So they cannot reach into the later wait, which goes on
collecting and keeps its replies; but a removal goes by the id alone, and when it comes late it
takes the later wait away and closes it (`leftover_step`). `late_removal_ends_later_wait` has a
guard that is dropped late, and a call whose deadline passes late.

The invariant (`Apart`) is about numbers. A task that does not look its id up gets the number of a
wait only by taking its entry away, and a number that has been taken away is never entered again. So
what is found under the id is never the wait that a leftover holds.
-/

namespace ScatterGather

variable {α : Type}

namespace RegistryTask

/-- A task is about to look its id up, and has nothing of any wait yet. -/
def looksUp : RegistryTask α → Bool
  | offer _ (.finding _) | await _ _ .finding => true
  | _ => false

/-- A task removes an id: somebody has asked for it, or a guard has been dropped. -/
def isRemoval : RegistryTask α → Bool
  | unregister .. => true
  | _ => false

end RegistryTask

/-- A task of an id that is left over from before, when the collector was `s₀`: it had looked the id
up by then, or it removes the id on behalf of whoever asked for that or held a guard. -/
def Leftover (s₀ : Collector α) (id : CorrelationId) (task : Nat) (t : RegistryTask α) : Prop :=
  t.id = id ∧ (t.isRemoval = true ∨ ∃ t₀, s₀.tasks[task]? = some t₀ ∧ t₀.looksUp = false)

/-! ### Tasks that have looked their id up -/

namespace TaskMoves

variable {task n : Nat} {r r' : Registry α} {t t' : RegistryTask α} {event : Option (ReplyEvent α)}

theorem isRemoval_eq (h : TaskMoves task r t event t' r') : t'.isRemoval = t.isRemoval := by
  cases h <;> rfl

/-- A lookup is never made twice. -/
theorem looksUp_eq (h : TaskMoves task r t event t' r') : t'.looksUp = false := by
  cases h with
  | accepted _ _ => split <;> rfl
  | _ => rfl

/-- Behind its lookup a task holds the wait that it held, or one that is not entered any more. -/
theorem number?_taken (h : TaskMoves task r t event t' r') (hl : t.looksUp = false)
    (hn : t'.number? = some n) : t.number? = some n ∨ r'.find? t.id = none := by
  cases h with
  | found _ | awaitFound _ => cases hl
  | removed _ | left _ | unregistered _ =>
      refine .inr ?_
      rw [Registry.find?_remove]
      exact if_pos rfl
  | accepted _ _ =>
      split at hn <;> cases hn
      exact .inl rfl
  | claimed _ _ | waits _ _ => exact .inl hn
  | unknown _ | refused _ _ | woke _ | awaitUnknown _ | awaited _ _ | returned _ | absent _ | shut
  | leftNothing _ | swept | notRegistered _ | unregisterShut => cases hn

end TaskMoves

namespace Collector

variable {s s' s₀ : Collector α} {a : CollectorAction α} {id : CorrelationId} {task n : Nat}
  {t t' : RegistryTask α}

/-- A task was there before, or has just begun. -/
theorem Moves.task_new (h : s.Moves a s') (hnone : s.tasks[task]? = none)
    (ht : s'.tasks[task]? = some t') :
    t'.number? = none ∧ (t'.looksUp = true ∧ t'.isRemoval = false ∨
      t'.looksUp = false ∧ t'.isRemoval = true) := by
  have hspawn : ∀ {t}, (s.spawn t).tasks[task]? = some t' → t' = t := by
    intro t ht
    rcases task_of_spawn ht with hold | ⟨-, rfl⟩
    · simp [hnone] at hold
    · rfl
  have hput : ∀ {other : Nat} {u : RegistryTask α} {r : Registry α} {lines : List LogLine},
      (s.put other u r lines).tasks[task]? ≠ some t' := by
    intro other u r lines ht
    have hlen := List.getElem?_eq_none_iff.mp hnone
    have hlt := (List.getElem?_eq_some_iff.mp ht).1
    rw [tasks_put, List.length_set] at hlt
    omega
  cases h with
  | registered _ | occupied _ => simp [hnone] at ht
  | offer | await =>
      obtain rfl := hspawn ht
      exact ⟨rfl, .inl ⟨rfl, rfl⟩⟩
  | unregister =>
      obtain rfl := hspawn ht
      exact ⟨rfl, .inr ⟨rfl, rfl⟩⟩
  | task _ _ | expired _ _ | cancelled _ _ | forgotten _ => exact absurd ht hput

/-- Whatever is left of the registrations of an id from before, when the collector was `s₀` and had
`n` waits, is apart from the wait that is found under the id now. -/
structure Apart (s₀ : Collector α) (id : CorrelationId) (n : Nat) (s : Collector α) : Prop where
  /-- Tasks stay. -/
  kept : ∀ {task : Nat} {t₀}, s₀.tasks[task]? = some t₀ → ∃ t, s.tasks[task]? = some t
  /-- Nobody looks the id up again. -/
  behind : ∀ {task : Nat} {t}, s.tasks[task]? = some t → Leftover s₀ id task t →
    t.looksUp = false
  /-- Who holds a wait holds an earlier one, or one that is not found any more. -/
  elsewhere : ∀ {task m : Nat} {t}, s.tasks[task]? = some t → Leftover s₀ id task t →
    t.number? = some m → m < n ∨ s.registry.find? id ≠ some m

/-- What is found under the id stays apart from a wait, unless it is registered anew. -/
theorem Moves.find?_ne (h : s.Moves a s') {m : Nat} (hm : m < s.registry.waits.length)
    (hne : s.registry.find? id ≠ some m) : s'.registry.find? id ≠ some m := by
  intro hf
  rcases h.find?_cases hf with hold | ⟨-, rfl⟩
  · exact hne hold
  · exact Nat.lt_irrefl _ hm

/-- The step of a leftover leaves it apart. -/
theorem Apart.own (hA : Apart s₀ id n s) (h : s.Moves a s') {m : Nat}
    (hlen : ∀ {m}, t.number? = some m → m < s.registry.waits.length)
    (ht : s.tasks[task]? = some t) (hleft : Leftover s₀ id task t)
    (hm : TaskMoves task s.registry t (s.event? a) t' s'.registry) (hn : t'.number? = some m) :
    m < n ∨ s'.registry.find? id ≠ some m := by
  rcases hm.number?_taken (hA.behind ht hleft) hn with hold | hnone
  · exact (hA.elsewhere ht hleft hold).imp_right (h.find?_ne (hlen hold))
  · refine .inr ?_
    rw [← hleft.1, hnone]
    nofun

/-- **Every move leaves what is left over apart.** -/
theorem Apart.move (hA : Apart s₀ id n s) (h : s.Moves a s')
    (hlen : ∀ {task m : Nat} {t}, s.tasks[task]? = some t → t.number? = some m →
      m < s.registry.waits.length) : Apart s₀ id n s' := by
  have hback : ∀ {task : Nat} {t'}, s'.tasks[task]? = some t' → Leftover s₀ id task t' →
      t'.looksUp = false ∧ ∀ {m}, t'.number? = some m → m < n ∨ s'.registry.find? id ≠ some m := by
    intro task t' ht' hleft
    cases ht : s.tasks[task]? with
    | none =>
        -- A task that has just begun is left over only as a removal, which holds nothing.
        obtain ⟨hnumber, ⟨-, hremoval⟩ | ⟨hbehind, -⟩⟩ := h.task_new ht ht'
        · obtain ⟨-, hr | ⟨t₀, ht₀, -⟩⟩ := hleft
          · simp [hremoval] at hr
          · obtain ⟨t, hold⟩ := hA.kept ht₀
            simp [ht] at hold
        · exact ⟨hbehind, fun hn => by simp [hnumber] at hn⟩
    | some t =>
        obtain ⟨u, hu, hcases⟩ := h.task_cases ht
        obtain rfl := Option.some.inj (ht'.symm.trans hu)
        rcases hcases with rfl | ⟨-, hm⟩ | ⟨-, hi⟩
        · exact ⟨hA.behind ht hleft,
            fun hn => (hA.elsewhere ht hleft hn).imp_right (h.find?_ne (hlen ht hn))⟩
        · have hleft' : Leftover s₀ id task t := by
            rwa [Leftover, ← hm.id_eq, ← hm.isRemoval_eq]
          exact ⟨hm.looksUp_eq, hA.own h (hlen ht) ht hleft' hm⟩
        · cases hi with
          | expired =>
              exact ⟨rfl, fun hn => (hA.elsewhere ht hleft hn).imp_right (h.find?_ne (hlen ht hn))⟩
          | cancelled | forgotten => exact ⟨rfl, nofun⟩
  refine ⟨fun ht₀ => ?_, fun ht' hleft => (hback ht' hleft).1,
    fun ht' hleft => (hback ht' hleft).2⟩
  obtain ⟨t, ht⟩ := hA.kept ht₀
  obtain ⟨t', ht', -⟩ := h.task_cases ht
  exact ⟨t', ht'⟩

/-- What is left of earlier registrations is apart from the wait that is registered now, and stays
apart whatever happens. -/
theorem apart_of_run {before after : List (CollectorAction α)} {expected : Nat}
    (hbefore : Collector.empty.run before = some s₀) (hfree : s₀.registry.find? id = none)
    (hafter : s₀.run (.register id expected :: after) = some s) :
    Apart s₀ id s₀.registry.waits.length s := by
  obtain ⟨s₁, hreg, hrun⟩ := foldlM_cons_eq_some.mp hafter
  have hs₁ : empty.run (before ++ [.register id expected]) = some s₁ :=
    foldlM_concat_eq_some.mpr ⟨s₀, hbefore, hreg⟩
  have hheld : ∀ {c : Collector α} {actions}, empty.run actions = some c →
      ∀ {task m : Nat} {t}, c.tasks[task]? = some t → t.number? = some m →
        m < c.registry.waits.length := by
    intro c actions hc task m t ht hn
    have hO := owned_of_run hc
    exact hO.length_eq ▸ (List.getElem?_eq_some_iff.mp (hO.task ht hn)).1
  obtain rfl : { s₀ with registry := s₀.registry.enter id expected } = s₁ := by
    simpa [step, Registry.register_of_none hfree] using hreg
  refine foldlM_induction (P := fun _ s => Apart s₀ id s₀.registry.waits.length s) ?_ ?_ hrun
  · refine ⟨fun ht₀ => ⟨_, ht₀⟩, fun {task t} ht hleft => ?_, fun ht _ hn =>
      .inl (hheld hbefore ht hn)⟩
    obtain ⟨-, hr | ⟨t₀, ht₀, hl⟩⟩ := hleft
    · cases t with
      | unregister => rfl
      | offer | await => cases hr
    · obtain rfl : t₀ = t := Option.some.inj (ht₀.symm.trans ht)
      exact hl
  · intro as c a c' hc hA hstep
    exact hA.move (moves_of_step hstep) (hheld (foldlM_append_eq_some.mpr ⟨_, hs₁, hc⟩))

/-- A task that is about to close a wait closes it in its next step. -/
theorem step_of_closes {w : Wait α} (ht : s.tasks[task]? = some t) (hc : t.closes? = some n)
    (hw : s.registry.wait? n = some w) :
    ∃ s', s.step (.advance task) = some s' ∧ s'.registry.wait? n = some w.close := by
  cases t with
  | offer => cases hc
  | await id timeout stage =>
      cases stage with
      | waiting m stage =>
          cases stage <;> cases hc
          exact ⟨s.put task (.await id timeout (.waiting n .lastLook))
              (s.registry.setWait n w.close) [],
            by simp [step, advance, ht, advanceAwait, hw, WaitStage.advance], by simp [hw]⟩
      | closing m result =>
          cases hc
          exact ⟨s.put task (.await id timeout (.ended result)) (s.registry.close n) [],
            by simp [step, advance, ht, advanceAwait], by simp [hw]⟩
      | sweeping m =>
          cases hc
          exact ⟨s.put task (.await id timeout .gone) (s.registry.close n) [],
            by simp [step, advance, ht, advanceAwait], by simp [hw]⟩
      | finding | claiming | removing | ended | leaving | gone => cases hc
  | unregister id stage =>
      cases stage <;> cases hc
      exact ⟨s.put task (.unregister id (.ended true)) (s.registry.close n) [],
        by simp [step, advance, ht, advanceRemoval], by simp [hw]⟩

/-- A task that takes an entry away is about to close the wait of it. -/
theorem Moves.closes?_of_removes (h : s.Moves a s') (ha : a.task? = some task)
    (ht : s.tasks[task]? = some t) (hr : t.removes = true)
    (hf : s.registry.find? t.id = some n) :
    ∃ t', s'.tasks[task]? = some t' ∧ t'.closes? = some n := by
  have hlt := (List.getElem?_eq_some_iff.mp ht).1
  cases h with
  | task hu hm =>
      cases ha
      obtain rfl := Option.some.inj (ht.symm.trans hu)
      refine ⟨_, List.getElem?_set_self hlt, ?_⟩
      generalize s.event? _ = event at hm
      cases hm with
      | removed hf' | left hf' | unregistered hf' => exact hf'.symm.trans hf
      | absent hf' | leftNothing hf' | notRegistered hf' => cases hf'.symm.trans hf
      | _ => cases hr
  | expired hu _ | cancelled hu _ | forgotten hu =>
      cases ha
      obtain rfl := Option.some.inj (ht.symm.trans hu)
      cases hr
  | registered _ | occupied _ | offer | await | unregister => cases ha

end Collector

/-! ### The later wait -/

/-- What the step of a task does to the wait of a number that is registered under the task's id. -/
structure SparesLater (id : CorrelationId) (n task : Nat) (t : RegistryTask α)
    (s s' : Collector α) : Prop where
  /-- The wait goes on collecting, if it does, and keeps its replies. -/
  wait : s'.registry.wait? n = s.registry.wait? n
  /-- It stays registered, unless the step takes away whatever is registered under the id. -/
  entry : s'.registry.find? id = if t.removes = true then none else some n
  /-- If it does, it was this wait, and the task closes it next. -/
  removal : t.removes = true → ∃ w s'', s.registry.wait? n = some w ∧
    s'.step (.advance task) = some s'' ∧ s''.registry.wait? n = some w.close

/-- **What is left of an earlier registration does not reach into a later wait**, whatever it does
and however it is interrupted, but ends it when it removes the id late. -/
theorem leftover_step {before after : List (CollectorAction α)} {s₀ s s' : Collector α}
    {id : CorrelationId} {expected task : Nat} {t : RegistryTask α} {a : CollectorAction α}
    (hbefore : Collector.empty.run before = some s₀) (hfree : s₀.registry.find? id = none)
    (hafter : s₀.run (.register id expected :: after) = some s)
    (hfound : s.registry.find? id = some s₀.registry.waits.length)
    (ht : s.tasks[task]? = some t) (hleft : Leftover s₀ id task t)
    (ha : a.task? = some task) (hstep : s.step a = some s') :
    SparesLater id s₀.registry.waits.length task t s s' := by
  have hmove := Collector.moves_of_step hstep
  obtain ⟨hentries, hwaits⟩ := hmove.own_step ha ht
  have hnumber : t.number? ≠ some s₀.registry.waits.length := fun hn =>
    ((Collector.apart_of_run hbefore hfree hafter).elsewhere ht hleft hn).elim
      (Nat.lt_irrefl _) fun hne => hne hfound
  have hwait := hwaits _ hnumber
  refine ⟨hwait, ?_, fun hr => ?_⟩
  · rw [hentries, hfound, ← hleft.1]
    simp
  · obtain ⟨t', ht', hcloses⟩ := hmove.closes?_of_removes ha ht hr (hleft.1 ▸ hfound)
    obtain ⟨w, hw⟩ : ∃ w, s.registry.wait? s₀.registry.waits.length = some w := by
      have hO := owned_of_run (foldlM_append_eq_some.mpr ⟨s₀, hbefore, hafter⟩)
      have hlt := (List.getElem?_eq_some_iff.mp (hO.entry hfound)).1
      exact ⟨_, List.getElem?_eq_getElem (hO.length_eq ▸ hlt)⟩
    obtain ⟨s'', hs'', hclosed⟩ := Collector.step_of_closes ht' hcloses (hwait.trans hw)
    exact ⟨w, s'', hw, hs'', hclosed⟩

/-- A call waits for the replies of an id that is removed under it. -/
def waitRemoved : List (CollectorAction Nat) :=
  [.register 8 1, .await 8 (.ofSeconds 1), .advance 0, .advance 0, .advance 0, .advance 0,
    .unregister 8, .advance 1, .advance 1]

/-- A reply arrives for the id. -/
def replyAgain : List (CollectorAction Nat) := [.offer 8 10, .advance 2, .advance 2]

/-- The guard of the earlier registration is dropped when a reply has come for the later one. -/
def guardDropped : List (CollectorAction Nat) := replyAgain ++ [.unregister 8]

/-- The id is registered again. When the deadline of the earlier call passes the later wait stays
registered; when the guard of the earlier registration is dropped it is taken away. -/
theorem leftover_step_late : ∃ s₀, Collector.empty.run waitRemoved = some s₀ ∧
    s₀.registry.find? 8 = none ∧
    (∃ s s' t, s₀.run (.register 8 2 :: replyAgain) = some s ∧
      s.registry.find? 8 = some s₀.registry.waits.length ∧ s.tasks[0]? = some t ∧
      Leftover s₀ 8 0 t ∧ t.removes = false ∧ s.step (.expire 0) = some s' ∧
      SparesLater 8 s₀.registry.waits.length 0 t s s') ∧
    ∃ s s' t, s₀.run (.register 8 2 :: guardDropped) = some s ∧
      s.registry.find? 8 = some s₀.registry.waits.length ∧ s.tasks[3]? = some t ∧
      Leftover s₀ 8 3 t ∧ t.removes = true ∧ s.step (.advance 3) = some s' ∧
      SparesLater 8 s₀.registry.waits.length 3 t s s' :=
  have hexpired := ⟨rfl, .inr ⟨_, rfl, rfl⟩⟩
  have hdropped := ⟨rfl, .inl rfl⟩
  ⟨_, rfl, rfl,
    ⟨_, _, _, rfl, rfl, rfl, hexpired, rfl, rfl,
      @leftover_step Nat waitRemoved replyAgain _ _ _ 8 2 0 _ (.expire 0) rfl rfl rfl rfl rfl
        hexpired rfl rfl⟩,
    ⟨_, _, _, rfl, rfl, rfl, hdropped, rfl, rfl,
      @leftover_step Nat waitRemoved guardDropped _ _ _ 8 2 3 _ (.advance 3) rfl rfl rfl rfl rfl
        hdropped rfl rfl⟩⟩

/-- A guard of the earlier registration is dropped late, or the earlier call goes on to its end
behind its deadline, or is given up: the later wait, which had one of its two replies, is gone and
closed. -/
theorem late_removal_ends_later_wait : ∃ s₀ s, Collector.empty.run waitRemoved = some s₀ ∧
    s₀.registry.find? 8 = none ∧ s₀.run (.register 8 2 :: replyAgain) = some s ∧
    s.registry.find? 8 = some 1 ∧
    (s.registry.wait? 1).map (fun w => (w.status, w.collected)) = some (.collecting, [10]) ∧
    ∀ late ∈ [[.unregister 8, .advance 3, .advance 3],
        [.expire 0, .advance 0, .advance 0, .advance 0, .advance 0, .advance 0],
        [.cancel 0, .advance 0, .advance 0]],
      ∃ s', s.run late = some s' ∧ s'.registry.find? 8 = none ∧
        (s'.registry.wait? 1).map (fun w => (w.status, w.collected)) = some (.closed, [10]) := by
  refine ⟨_, _, rfl, rfl, rfl, rfl, rfl, ?_⟩
  simp only [List.forall_mem_cons]
  exact ⟨⟨_, rfl, rfl, rfl⟩, ⟨_, rfl, rfl, rfl⟩, ⟨_, rfl, rfl, rfl⟩, nofun⟩

end ScatterGather
