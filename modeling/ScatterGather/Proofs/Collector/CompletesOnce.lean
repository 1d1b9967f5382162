import ScatterGather.Proofs.Collector.Ledger

/-!
# A wait that is shared completes once

Any number of tasks may offer replies to one wait, close it, and call it to wait for its replies,
each step of theirs between any two steps of the others (`SharedWait.step`). A step does one of two
things (`SharedWait.Moves.cases`): a call takes the replies of a complete wait and ends with them,
or nobody's replies change hands. Hence the books `SharedWait.Kept`: the wait holds the replies that
it has accepted, and it has been emptied exactly when one call has ended with all of them.

`completes_once` says what this means for those who share the wait: there is one call at most that
gets replies, it gets all that were expected in the order of their acceptance, and closing the wait
matters before it is complete and not afterwards.
-/

namespace ScatterGather

variable {α : Type}

/-! ### Waits that collect no more -/

theorem Wait.isComplete_eq_true_iff {w : Wait α} :
    w.isComplete = true ↔ w.status = .complete ∨ w.status = .delivered := by
  simp [Wait.isComplete]

/-- A complete wait does not collect. -/
theorem Wait.status_ne_of_isComplete {w : Wait α} (h : w.isComplete = true) :
    w.status ≠ .collecting := by
  rcases isComplete_eq_true_iff.mp h with hs | hs <;> simp [hs]

/-- A wait that was closed before it was complete stays closed. -/
theorem Wait.Evolves.stays_closed {w w' : Wait α} {items : List α} (h : w.Evolves items w')
    (hw : w.status = .closed) : w'.status = .closed := by
  cases h with
  | same h _ => exact h.status.trans hw
  | appended h _ => simp [hw] at h
  | taken => simp [Wait.take?_of_not_complete, hw]
  | closed => simp [Wait.close_of_not_collecting, hw]

/-- A wait that does not collect accepts no more. -/
theorem Wait.Evolves.accepted {w w' : Wait α} {items : List α} (h : w.Evolves items w')
    (hw : w.status ≠ .collecting) : w'.accepted = w.accepted := by
  cases h with
  | same h _ => exact h.accepted
  | appended h _ => exact absurd h hw
  | taken => rcases w.take?_cases with ⟨_, ht⟩ | ⟨_, ht⟩ <;> rw [ht]
  | closed => rw [Wait.close_of_not_collecting hw]

/-- A wait that is complete stays so. -/
theorem Wait.Evolves.isComplete {w w' : Wait α} {items : List α} (h : w.Evolves items w')
    (hw : w.isComplete = true) : w'.isComplete = true := by
  cases h with
  | same h _ => rwa [Wait.isComplete, h.status]
  | appended h _ => simp [Wait.isComplete, h] at hw
  | taken =>
      rcases w.take?_cases with ⟨_, ht⟩ | ⟨_, ht⟩
      · simp [ht, Wait.isComplete]
      · rwa [ht]
  | closed => rwa [Wait.close_of_not_collecting (Wait.status_ne_of_isComplete hw)]

/-- Closing a wait does not empty it. -/
theorem Wait.close_status_eq_delivered {w : Wait α} :
    w.close.status = .delivered ↔ w.status = .delivered := by
  unfold Wait.close
  split
  · next hc => simp [hc]
  · exact .rfl

/-- Closing a wait before it is complete gives it up. -/
theorem Wait.close_status_of_not_isComplete {w : Wait α} (h : w.isComplete = false) :
    w.close.status = .closed := by
  cases hs : w.status with
  | collecting => simp [Wait.close, hs]
  | closed => simp [Wait.close, hs]
  | complete | delivered => simp [Wait.isComplete, hs] at h

namespace SharedWait

/-! ### What one step does -/

/-- The reply that an action gets accepted. -/
def accepts? (s : SharedWait α) : WaitAction α → Option α
  | .offer item => if (s.wait.append item).1 then some item else none
  | _ => none

/-- The replies that actions get accepted, in the order of their acceptance. -/
def acceptedBy (s : SharedWait α) (actions : List (WaitAction α)) : List α :=
  emitted step accepts? s actions

/-- One step, and the reply that is accepted by it. -/
inductive Moves (s : SharedWait α) : Option α → SharedWait α → Prop where
  | accepted (h : s.wait.status = .collecting) (item : α) (owed : Bool) :
    Moves s (some item) { s with wait := (s.wait.append item).2, wakeOwed := owed }
  | refused : Moves s none s
  | woke : Moves s none { s with wait := s.wait.wakeOne, wakeOwed := false }
  | closed : Moves s none { s with wait := s.wait.close }
  | called : Moves s none { s with calls := s.calls ++ [.checking] }
  | waits {call stage taken stage' w'} (hs : s.calls[call]? = some stage)
    (hm : WaitMoves call s.wait stage taken stage' w') : Moves s none (s.put call (stage', w'))
  | expired {call} (hs : s.calls[call]? = some .parked) :
    Moves s none (s.put call (.closing, s.wait.leave call))

variable {s s' : SharedWait α} {reply : Option α}

/-- Every step is one of these. -/
theorem moves_of_step {a : WaitAction α} (h : s.step a = some s') : s.Moves (s.accepts? a) s' := by
  cases a with
  | offer item =>
      by_cases hc : s.wait.status = .collecting
      · have hfst : (s.wait.append item).1 = true := by simp [Wait.append_fst, hc]
        cases h
        rw [accepts?, if_pos hfst]
        exact .accepted hc item _
      · have happend := Wait.append_of_not_collecting hc item
        obtain rfl : s = s' := by simpa [step, happend] using h
        simpa [accepts?, happend] using Moves.refused (s := s)
  | wake =>
      simp only [step] at h
      split at h <;> cases h
      exact .woke
  | close =>
      cases h
      exact .closed
  | call =>
      cases h
      exact .called
  | advance call =>
      obtain ⟨stage, hs, h⟩ := Option.bind_eq_some_iff.mp h
      obtain ⟨⟨stage', w'⟩, hadvance, h⟩ := Option.bind_eq_some_iff.mp h
      cases h
      obtain ⟨taken, hm⟩ := waitMoves_of_advance hadvance
      exact .waits hs hm
  | expire call =>
      obtain ⟨stage, hs, h⟩ := Option.bind_eq_some_iff.mp h
      obtain ⟨⟨stage', w'⟩, hexpire, h⟩ := Option.bind_eq_some_iff.mp h
      cases h
      cases stage with
      | parked =>
          cases hexpire
          exact .expired hs
      | checking | parking | closing | lastLook | ended => cases hexpire

/-- A step changes the wait in one of the ways in which waits change. -/
theorem Moves.evolves (h : s.Moves reply s') : s.wait.Evolves reply.toList s'.wait := by
  cases h with
  | accepted hc item _ => exact .appended hc item
  | refused | called => exact .refl _
  | woke => exact .same s.wait.sameReplies_wakeOne (by simp)
  | closed => exact .closed
  | waits _ hm => exact hm.evolves
  | expired _ => exact .same (s.wait.sameReplies_leave _) (fun h => by simpa [put] using h)

/-- A call behind the step of a call is that one or has not moved. -/
theorem call_of_put {call other : Nat} {stage stage' : WaitStage α} {w : Wait α}
    (h : (s.put call (stage, w)).calls[other]? = some stage') :
    call = other ∧ stage' = stage ∨ call ≠ other ∧ s.calls[other]? = some stage' := by
  change (s.calls.set call stage)[other]? = some stage' at h
  rw [List.getElem?_set] at h
  split at h
  · next heq =>
      split at h <;> cases h
      exact .inl ⟨heq, rfl⟩
  · next hne => exact .inr ⟨hne, h⟩

/-- A call has ended, with replies or without. -/
def Returned (s : SharedWait α) (call : Nat) (result : Option (List α)) : Prop :=
  s.calls[call]? = some (.ended result)

/-- A call has ended with these replies. -/
def Got (s : SharedWait α) (call : Nat) (items : List α) : Prop := s.Returned call (some items)

/-- A step of a call that neither had got replies nor gets any leaves everybody with what they
have got. -/
theorem got_put {call i : Nat} {stage stage' : WaitStage α} {w : Wait α} {items : List α}
    (hs : s.calls[call]? = some stage) (hbefore : ∀ xs, stage ≠ .ended (some xs))
    (hafter : ∀ xs, stage' ≠ .ended (some xs)) :
    (s.put call (stage', w)).Got i items ↔ s.Got i items := by
  constructor
  · intro h
    rcases call_of_put h with ⟨-, heq⟩ | ⟨-, hkept⟩
    · exact absurd heq.symm (hafter items)
    · exact hkept
  · intro h
    have hne : call ≠ i := by
      rintro rfl
      exact hbefore items (Option.some.inj (hs.symm.trans h))
    exact (List.getElem?_set_ne hne).trans h

/-- **One step does one of two things**: a call takes all the replies of a complete wait and ends
with them, or everybody has got what they had, and the wait is emptied by it no more than before. -/
theorem Moves.cases (h : s.Moves reply s') :
    (∃ call stage, reply = none ∧ s.wait.status = .complete ∧ s.calls[call]? = some stage ∧
      s' = s.put call (.ended (some s.wait.collected), s.wait.take?.2)) ∨
    (s'.wait.status = .delivered ↔ s.wait.status = .delivered) ∧
      ∀ i items, s'.Got i items ↔ s.Got i items := by
  cases h with
  | accepted hc item owed =>
      refine .inr ⟨?_, fun _ _ => .rfl⟩
      change (s.wait.append item).2.status = _ ↔ _
      rw [Wait.append_status hc, hc]
      split <;> simp
  | refused => exact .inr ⟨.rfl, fun _ _ => .rfl⟩
  | woke =>
      refine .inr ⟨?_, fun _ _ => .rfl⟩
      rw [s.wait.sameReplies_wakeOne.status]
  | closed => exact .inr ⟨Wait.close_status_eq_delivered, fun _ _ => .rfl⟩
  | called =>
      refine .inr ⟨.rfl, fun i items => ⟨fun h => ?_, getElem?_append_of_eq_some⟩⟩
      rcases getElem?_concat_eq_some h with h | ⟨-, h⟩
      · exact h
      · cases h
  | expired hs =>
      refine .inr ⟨?_, fun i items => got_put hs nofun nofun⟩
      change (s.wait.leave _).status = _ ↔ _
      rw [(s.wait.sameReplies_leave _).status]
  | @waits call stage taken stage' w' hs hm =>
      cases hm with
      | took hc => exact .inl ⟨call, _, rfl, hc, hs, rfl⟩
      | missed _ | resumed _ | queued _ | woken _ =>
          exact .inr ⟨.rfl, fun i items => got_put hs nofun nofun⟩
      | shut =>
          exact .inr ⟨Wait.close_status_eq_delivered, fun i items => got_put hs nofun nofun⟩
      | looked =>
          rcases s.wait.take?_cases with ⟨hc, ht⟩ | ⟨hc, ht⟩
          · exact .inl ⟨call, _, rfl, hc, hs, by rw [ht]⟩
          · rw [ht]
            exact .inr ⟨.rfl, fun i items => got_put hs nofun nofun⟩

/-- A call that has ended stays as it has ended. -/
theorem Moves.returned (h : s.Moves reply s') {call : Nat} {result : Option (List α)}
    (hs : s.Returned call result) : s'.Returned call result := by
  cases h with
  | accepted | refused | woke | closed => exact hs
  | called => exact getElem?_append_of_eq_some hs
  | @waits other stage _ _ _ hother hm =>
      have hne : other ≠ call := by
        rintro rfl
        obtain rfl := Option.some.inj (hother.symm.trans hs)
        cases hm
      exact (List.getElem?_set_ne hne).trans hs
  | @expired other hother =>
      have hne : other ≠ call := by
        rintro rfl
        cases hother.symm.trans hs
      exact (List.getElem?_set_ne hne).trans hs

end SharedWait

/-! ### The books of a shared wait -/

/-- What is known of the wait once a call is past its deadline: it does not collect any more, and a
call that has ended without replies has found it closed or emptied. -/
def WaitStage.Late (status : WaitStatus) : WaitStage α → Prop
  | .lastLook => status ≠ .collecting
  | .ended none => status = .closed ∨ status = .delivered
  | _ => True

namespace WaitStage

/-- What is known of a wait stays true of it. -/
theorem Late.evolves {stage : WaitStage α} {w w' : Wait α} {items : List α}
    (h : stage.Late w.status) (hw : w.Evolves items w') : stage.Late w'.status := by
  cases stage with
  | lastLook => exact (hw.settled h).2
  | ended result =>
      cases result with
      | none => exact h.imp hw.stays_closed hw.delivered
      | some items => trivial
  | checking | parking | parked | closing => trivial

/-- The next step of a call finds what is known of the wait then. -/
theorem Late.move {call : Nat} {w w' : Wait α} {stage stage' : WaitStage α}
    {taken : Option (List α)} (h : stage.Late w.status)
    (hm : WaitMoves call w stage taken stage' w') : stage'.Late w'.status := by
  cases hm with
  | took | missed | resumed | queued | woken => trivial
  | shut => exact w.close_status_ne
  | looked =>
      rcases w.take?_cases with ⟨hc, ht⟩ | ⟨hc, ht⟩
      · rw [ht]
        trivial
      · rw [ht]
        have hne : w.status ≠ .collecting := h
        change w.status = .closed ∨ w.status = .delivered
        cases hs : w.status <;> simp_all

end WaitStage

namespace SharedWait

/-- The wait has accepted these replies, and its calls have got them as they should. -/
structure Kept (s : SharedWait α) (expected : Nat) (items : List α) : Prop where
  expected : s.wait.expected = expected
  holds : s.wait.Holds items
  got : ∀ {call xs}, s.Got call xs → s.wait.status = .delivered ∧ xs = items
  once : ∀ {call call' xs xs'}, s.Got call xs → s.Got call' xs' → call = call'
  given : s.wait.status = .delivered → ∃ call, s.Got call items
  late : ∀ {call : Nat} {stage : WaitStage α}, s.calls[call]? = some stage →
    stage.Late s.wait.status

namespace Kept

variable {expected : Nat} {items : List α} {s s' : SharedWait α} {reply : Option α}

theorem new (expected : Nat) : (SharedWait.new expected : SharedWait α).Kept expected [] where
  expected := rfl
  holds := Wait.holds_new expected
  got h := by cases h
  once h := by cases h
  given h := by
    have hne : (Wait.new expected : Wait α).status ≠ .delivered := by
      unfold Wait.new
      split <;> simp
    exact absurd h hne
  late h := by cases h

/-- What is known of the wait by the calls past their deadline is kept by every step. -/
theorem late_move (h : s.Kept expected items) (hm : s.Moves reply s') {call : Nat}
    {stage : WaitStage α} (hs : s'.calls[call]? = some stage) : stage.Late s'.wait.status := by
  have hevolves := hm.evolves
  cases hm with
  | accepted | refused | woke | closed => exact (h.late hs).evolves hevolves
  | called =>
      rcases getElem?_concat_eq_some hs with hs | ⟨-, rfl⟩
      · exact h.late hs
      · trivial
  | waits hcall hm =>
      rcases call_of_put hs with ⟨-, rfl⟩ | ⟨-, hs⟩
      · exact (h.late hcall).move hm
      · exact (h.late hs).evolves hevolves
  | expired _ =>
      rcases call_of_put hs with ⟨-, rfl⟩ | ⟨-, hs⟩
      · trivial
      · exact (h.late hs).evolves hevolves

/-- **Every step keeps the books.** -/
theorem move (h : s.Kept expected items) (hm : s.Moves reply s') :
    s'.Kept expected (items ++ reply.toList) := by
  have hevolves := hm.evolves
  have hexpected := hevolves.expected.trans h.expected
  have hholds := hevolves.holds h.holds
  obtain ⟨call, stage, rfl, hcomplete, hs, rfl⟩ | ⟨hdelivered, hgot⟩ := hm.cases
  · -- nobody has got anything before, since the wait has not been emptied
    have hnobody {i xs} (hi : s.Got i xs) : False := by simpa [hcomplete] using (h.got hi).1
    have hitems : s.wait.collected = items := h.holds.collected (by simp [hcomplete])
    have hfirst {i xs}
        (hi : (s.put call (.ended (some s.wait.collected), s.wait.take?.2)).Got i xs) :
        call = i ∧ xs = items := by
      rcases call_of_put hi with ⟨rfl, heq⟩ | ⟨-, hi⟩
      · cases heq
        exact ⟨rfl, hitems⟩
      · exact (hnobody hi).elim
    have hstatus : s.wait.take?.2.status = .delivered := by
      rw [Wait.take?_of_complete hcomplete]
    have hlen := (List.getElem?_eq_some_iff.mp hs).1
    rw [Option.toList_none, List.append_nil] at hholds ⊢
    refine ⟨hexpected, hholds, fun hi => ⟨hstatus, (hfirst hi).2⟩,
      fun hi hj => (hfirst hi).1.symm.trans (hfirst hj).1, fun _ => ⟨call, ?_⟩, h.late_move hm⟩
    exact hitems ▸ List.getElem?_set_self hlen
  · have hnone (hi : s.wait.status = .delivered) : items ++ reply.toList = items := by
      rw [(hevolves.settled (by simp [hi])).1, List.append_nil]
    refine ⟨hexpected, hholds, ?_, ?_, ?_, h.late_move hm⟩
    · intro i xs hi
      obtain ⟨hd, rfl⟩ := h.got ((hgot i xs).mp hi)
      exact ⟨hdelivered.mpr hd, (hnone hd).symm⟩
    · intro i j xs xs' hi hj
      exact h.once ((hgot i xs).mp hi) ((hgot j xs').mp hj)
    · intro hd
      obtain ⟨i, hi⟩ := h.given (hdelivered.mp hd)
      exact ⟨i, (hnone (hdelivered.mp hd)).symm ▸ (hgot i items).mpr hi⟩

end Kept

/-- The books are kept behind every run. -/
theorem kept_of_run {expected : Nat} {actions : List (WaitAction α)} {s : SharedWait α}
    (h : (new expected).run actions = some s) :
    s.Kept expected ((new expected).acceptedBy actions) := by
  refine foldlM_induction
    (P := fun actions s => s.Kept expected ((new expected).acceptedBy actions)) (Kept.new expected)
    ?_ h
  intro actions s a s' hrun hkept hstep
  have hconcat : (new expected).acceptedBy (actions ++ [a]) =
      (new expected).acceptedBy actions ++ (s.accepts? a).toList := emitted_concat hrun a
  rw [hconcat]
  exact hkept.move (moves_of_step hstep)

/-! ### What lasts -/

variable {s s' : SharedWait α} {more : List (WaitAction α)}

/-- A wait that does not collect stays as full as it is. -/
theorem accepted_of_run (h : s.run more = some s') (hs : s.wait.status ≠ .collecting) :
    s'.wait.accepted = s.wait.accepted := by
  refine (foldlM_invariant (P := fun s' : SharedWait α =>
    s'.wait.status ≠ .collecting ∧ s'.wait.accepted = s.wait.accepted) ?_ ⟨hs, rfl⟩ h).2
  rintro t a t' ⟨ht, haccepted⟩ hstep
  have hevolves := (moves_of_step hstep).evolves
  exact ⟨(hevolves.settled ht).2, (hevolves.accepted ht).trans haccepted⟩

/-- A complete wait stays complete. -/
theorem isComplete_of_run (h : s.run more = some s') (hs : s.wait.isComplete = true) :
    s'.wait.isComplete = true :=
  foldlM_invariant (P := fun s' : SharedWait α => s'.wait.isComplete = true)
    (fun ht hstep => (moves_of_step hstep).evolves.isComplete ht) hs h

/-- A wait that was given up stays given up. -/
theorem closed_of_run (h : s.run more = some s') (hs : s.wait.status = .closed) :
    s'.wait.status = .closed :=
  foldlM_invariant (P := fun s' : SharedWait α => s'.wait.status = .closed)
    (fun ht hstep => (moves_of_step hstep).evolves.stays_closed ht) hs h

/-- A call that has ended stays so. -/
theorem returned_of_run (h : s.run more = some s') {call : Nat} {result : Option (List α)}
    (hs : s.Returned call result) : s'.Returned call result :=
  foldlM_invariant (P := fun s' : SharedWait α => s'.Returned call result)
    (fun ht hstep => (moves_of_step hstep).returned ht) hs h

/-! ### What those who share a wait can rely on -/

/-- The action closes the wait: it is closed outright, or by a call past its deadline. -/
def Closes (s : SharedWait α) : WaitAction α → Prop
  | .close => True
  | .advance call => s.calls[call]? = some .closing
  | _ => False

/-- Closing closes the wait, and nobody gets or loses anything by it. -/
theorem Closes.step_eq {a : WaitAction α} (h : s.Closes a) : ∃ s', s.step a = some s' ∧
    s'.wait = s.wait.close ∧ ∀ call items, s'.Got call items ↔ s.Got call items := by
  cases a with
  | close => exact ⟨_, rfl, rfl, fun _ _ => .rfl⟩
  | advance call =>
      have hs : s.calls[call]? = some .closing := h
      refine ⟨s.put call (.lastLook, s.wait.close), ?_, rfl, fun _ _ => got_put hs nofun nofun⟩
      simp [step, hs, WaitStage.advance]
  | offer | wake | call | expire => cases h

/-- A shared wait that expects so many replies and has accepted these ones completes once. -/
structure CompletesOnce (expected : Nat) (items : List α) (s : SharedWait α) : Prop where
  /-- No two calls get replies. -/
  once : ∀ {call call' xs xs'}, s.Got call xs → s.Got call' xs' → call = call'
  /-- What a call has ended with, with replies or without, is final. -/
  final : ∀ {call result more s'}, s.Returned call result → s.run more = some s' →
    s'.Returned call result
  /-- The call that gets replies gets the first ones that were accepted, all that were expected. -/
  first : ∀ {call xs}, s.Got call xs → xs = items.take expected ∧ xs.length = expected
  counted : s.wait.accepted = items.length
  bounded : s.wait.accepted ≤ expected
  full : s.wait.accepted = expected ↔ s.wait.isComplete = true
  /-- Nothing is accepted any more by a wait that is complete, which it stays, or closed. -/
  settled : ∀ {more s'}, s.wait.isComplete = true ∨ s.wait.status = .closed →
    s.run more = some s' →
      s'.wait.accepted = s.wait.accepted ∧ (s.wait.isComplete = true → s'.wait.isComplete = true)
  /-- Closing a complete wait changes nothing: its replies stay where they are. -/
  closedLate : ∀ {a}, s.wait.isComplete = true → s.Closes a → ∃ s', s.step a = some s' ∧
    s'.wait = s.wait ∧ ∀ call xs, s'.Got call xs ↔ s.Got call xs
  /-- As long as nobody has got the replies of a complete wait, whoever looks gets them. -/
  delivers : ∀ {call stage}, s.wait.isComplete = true → (∀ other xs, ¬s.Got other xs) →
    s.calls[call]? = some stage → stage = .checking ∨ stage = .lastLook →
      ∃ s', s.step (.advance call) = some s' ∧ s'.Got call (items.take expected)
  /-- A call that ends without replies leaves none behind: the wait is closed, or they are another
  call's. -/
  withoutReplies : ∀ {call}, s.Returned call none →
    s.wait.status = .closed ∨ ∃ other, s.Got other items
  /-- Closing a wait before it is complete keeps it from ever being, and nobody gets any replies. -/
  closedEarly : ∀ {a}, s.wait.isComplete = false → s.Closes a → ∃ s', s.step a = some s' ∧
    s'.wait.status = .closed ∧ ∀ more s'', s'.run more = some s'' →
      s''.wait.isComplete = false ∧ ∀ call xs, ¬s''.Got call xs

/-- A complete wait that nobody has emptied gives its replies to the call that looks. -/
theorem Kept.delivers {expected : Nat} {items : List α} (h : s.Kept expected items) {call : Nat}
    {stage : WaitStage α} (hcomplete : s.wait.status = .complete)
    (hs : s.calls[call]? = some stage) (hlooks : stage = .checking ∨ stage = .lastLook) :
    ∃ s', s.step (.advance call) = some s' ∧ s'.Got call items := by
  have hitems : s.wait.collected = items := h.holds.collected (by simp [hcomplete])
  refine ⟨s.put call (.ended (some s.wait.collected), s.wait.take?.2), ?_, ?_⟩
  · rcases hlooks with rfl | rfl <;>
      simp [step, hs, WaitStage.advance, Wait.take?_of_complete hcomplete]
  · rw [hitems]
    exact List.getElem?_set_self (List.getElem?_eq_some_iff.mp hs).1

/-- **A shared wait completes once**, whatever those who share it do and in whichever order. -/
theorem completes_once {expected : Nat} {actions : List (WaitAction α)} {s : SharedWait α}
    (h : (new expected).run actions = some s) :
    CompletesOnce expected ((new expected).acceptedBy actions) s := by
  have hkept := kept_of_run h
  generalize hitems : (new expected).acceptedBy actions = items at hkept
  have hfull : items.length = expected ↔ s.wait.isComplete = true := by
    rw [hkept.holds.isComplete_iff, hkept.expected]
  have htake : items.take expected = items :=
    List.take_of_length_le (hkept.expected ▸ hkept.holds.length_le)
  constructor
  case once => exact hkept.once
  case final => exact fun hs hrun => returned_of_run hrun hs
  case first =>
    intro call xs hgot
    obtain ⟨hd, rfl⟩ := hkept.got hgot
    exact ⟨htake.symm, hfull.mpr (Wait.isComplete_eq_true_iff.mpr (.inr hd))⟩
  case counted => exact hkept.holds.accepted
  case bounded => exact hkept.holds.accepted ▸ hkept.expected ▸ hkept.holds.length_le
  case full => rw [hkept.holds.accepted, hfull]
  case settled =>
    intro more s' hsettled hrun
    have hne : s.wait.status ≠ .collecting :=
      hsettled.elim Wait.status_ne_of_isComplete (fun hs => by simp [hs])
    exact ⟨accepted_of_run hrun hne, isComplete_of_run hrun⟩
  case closedLate =>
    intro a hs ha
    obtain ⟨s', hstep, hwait, hgot⟩ := ha.step_eq
    have hkeeps := Wait.close_of_not_collecting (Wait.status_ne_of_isComplete hs)
    exact ⟨s', hstep, hwait.trans hkeeps, hgot⟩
  case delivers =>
    intro call stage hs hnobody hcall hlooks
    have hcomplete : s.wait.status = .complete := by
      rcases Wait.isComplete_eq_true_iff.mp hs with hs | hs
      · exact hs
      · obtain ⟨other, hgot⟩ := hkept.given hs
        exact absurd hgot (hnobody other items)
    rw [htake]
    exact hkept.delivers hcomplete hcall hlooks
  case withoutReplies => exact fun hs => (hkept.late hs).imp_right hkept.given
  case closedEarly =>
    intro a hs ha
    obtain ⟨s', hstep, hwait, -⟩ := ha.step_eq
    have hclosed : s'.wait.status = .closed :=
      hwait ▸ Wait.close_status_of_not_isComplete hs
    refine ⟨s', hstep, hclosed, ?_⟩
    intro more s'' hrun
    have hlast := closed_of_run hrun hclosed
    have hrun' : (new expected).run (actions ++ a :: more) = some s'' :=
      foldlM_append_eq_some.mpr ⟨s, h, foldlM_cons_eq_some.mpr ⟨s', hstep, hrun⟩⟩
    refine ⟨by simp [Wait.isComplete, hlast], fun call xs hgot => ?_⟩
    simpa [hlast] using ((kept_of_run hrun').got hgot).1

/-- Two calls wait for two replies. The deadline of the first passes when both are there, and before
it closes the wait it is closed already; a third reply comes too late. -/
def closedWhenComplete : List (WaitAction Nat) :=
  [.call, .advance 0, .advance 0, .call, .advance 1, .advance 1, .offer 10, .offer 20, .expire 0,
    .close, .offer 30, .wake, .advance 0, .advance 0, .advance 1, .advance 1]

/-- The first call gets both replies in its last look, and the wake-up finds nothing for the
second. -/
theorem completes_once_closed : ∃ s : SharedWait Nat,
    (new 2).run closedWhenComplete = some s ∧ (new 2).acceptedBy closedWhenComplete = [10, 20] ∧
      s.Got 0 [10, 20] ∧ s.calls[1]? = some .parking ∧
      CompletesOnce 2 ((new 2).acceptedBy closedWhenComplete) s :=
  ⟨_, rfl, rfl, rfl, rfl, completes_once rfl⟩

end SharedWait

end ScatterGather
