import ScatterGather.Collector.Wait

/-!
# The replies a wait holds

`Wait.Holds w items` says that `w` has accepted exactly `items`, in this order: they are there as
long as they have not been taken, they are never more than expected, and the wait is complete
exactly when they are as many. Every operation on a wait keeps this, with one reply more where a
reply is accepted. Waking, queueing and leaving do not touch replies (`Wait.SameReplies`).
-/

namespace ScatterGather

variable {α : Type}

namespace Wait

/-! ### Operations that do not touch replies -/

/-- The second wait holds what the first one holds; who queues and who is woken may differ. -/
structure SameReplies (w w' : Wait α) : Prop where
  expected : w'.expected = w.expected
  collected : w'.collected = w.collected
  accepted : w'.accepted = w.accepted
  status : w'.status = w.status

namespace SameReplies

theorem refl (w : Wait α) : w.SameReplies w := ⟨rfl, rfl, rfl, rfl⟩

theorem trans {w w' w'' : Wait α} (h : w.SameReplies w') (h' : w'.SameReplies w'') :
    w.SameReplies w'' :=
  ⟨h'.expected.trans h.expected, h'.collected.trans h.collected, h'.accepted.trans h.accepted,
    h'.status.trans h.status⟩

end SameReplies

/-- Waking a call touches no reply. -/
theorem sameReplies_wakeOne (w : Wait α) : w.SameReplies w.wakeOne := by
  unfold wakeOne
  split <;> exact ⟨rfl, rfl, rfl, rfl⟩

/-- Leaving the queue touches no reply. -/
theorem sameReplies_leave (w : Wait α) (call : Nat) : w.SameReplies (w.leave call) := by
  unfold leave
  split
  · have := sameReplies_wakeOne { w with woken := w.woken.erase call }
    exact ⟨this.expected, this.collected, this.accepted, this.status⟩
  · exact ⟨rfl, rfl, rfl, rfl⟩

/-- Claiming touches no reply. -/
theorem sameReplies_claim (w : Wait α) : w.SameReplies w.claim.2 := ⟨rfl, rfl, rfl, rfl⟩

@[simp] theorem wakeOne_claimed (w : Wait α) : w.wakeOne.claimed = w.claimed := by
  unfold wakeOne
  split <;> rfl

@[simp] theorem leave_claimed (w : Wait α) (call : Nat) : (w.leave call).claimed = w.claimed := by
  unfold leave
  split <;> simp

@[simp] theorem close_claimed (w : Wait α) : w.close.claimed = w.claimed := by
  unfold close
  split <;> rfl

@[simp] theorem append_claimed (w : Wait α) (item : α) :
    (w.append item).2.claimed = w.claimed := by
  unfold append
  split <;> rfl

@[simp] theorem take?_claimed (w : Wait α) : w.take?.2.claimed = w.claimed := by
  unfold take?
  split <;> rfl

@[simp] theorem close_expected (w : Wait α) : w.close.expected = w.expected := by
  unfold close
  split <;> rfl

@[simp] theorem append_expected (w : Wait α) (item : α) :
    (w.append item).2.expected = w.expected := by
  unfold append
  split <;> rfl

@[simp] theorem take?_expected (w : Wait α) : w.take?.2.expected = w.expected := by
  unfold take?
  split <;> rfl

/-! ### Appending, closing and taking by the status of the wait -/

/-- The wait with one reply more. -/
theorem append_of_collecting {w : Wait α} (h : w.status = .collecting) (item : α) :
    w.append item = (true, { w with
      collected := w.collected ++ [item]
      accepted := w.accepted + 1
      status := if w.expected ≤ w.accepted + 1 then .complete else .collecting }) :=
  if_pos h

theorem append_of_not_collecting {w : Wait α} (h : w.status ≠ .collecting) (item : α) :
    w.append item = (false, w) :=
  if_neg h

/-- A reply is accepted while the wait collects, and only then. -/
theorem append_fst (w : Wait α) (item : α) :
    (w.append item).1 = decide (w.status = .collecting) := by
  by_cases h : w.status = .collecting
  · simp [append_of_collecting h, h]
  · simp [append_of_not_collecting h, h]

/-- A wait that accepts a reply is complete behind it, or goes on collecting. -/
theorem append_status {w : Wait α} (h : w.status = .collecting) (item : α) :
    (w.append item).2.status = if w.expected ≤ w.accepted + 1 then .complete else .collecting := by
  rw [append_of_collecting h]

theorem close_of_not_collecting {w : Wait α} (h : w.status ≠ .collecting) : w.close = w :=
  if_neg h

/-- A closed wait collects no more. -/
theorem close_status_ne (w : Wait α) : w.close.status ≠ .collecting := by
  unfold close
  split
  · simp
  · assumption

theorem take?_of_complete {w : Wait α} (h : w.status = .complete) :
    w.take? = (some w.collected, { w with collected := [], status := .delivered }) :=
  if_pos h

theorem take?_of_not_complete {w : Wait α} (h : w.status ≠ .complete) : w.take? = (none, w) :=
  if_neg h

/-- Looking whether a wait is complete gives its replies when it is, and changes nothing when it
is not. -/
theorem take?_cases (w : Wait α) :
    (w.status = .complete ∧
        w.take? = (some w.collected, { w with collected := [], status := .delivered })) ∨
      w.status ≠ .complete ∧ w.take? = (none, w) := by
  by_cases h : w.status = .complete
  · exact .inl ⟨h, take?_of_complete h⟩
  · exact .inr ⟨h, take?_of_not_complete h⟩

/-! ### The replies accepted so far -/

/-- The wait has accepted exactly these replies, in this order. -/
structure Holds (w : Wait α) (items : List α) : Prop where
  accepted : w.accepted = items.length
  collected : w.status ≠ .delivered → w.collected = items
  length_le : items.length ≤ w.expected
  isComplete_iff : w.isComplete = true ↔ items.length = w.expected

/-- A new wait holds nothing. -/
theorem holds_new (expected : Nat) : (new expected : Wait α).Holds [] where
  accepted := rfl
  collected _ := rfl
  length_le := Nat.zero_le _
  isComplete_iff := by
    by_cases h : expected = 0
    · simp [new, isComplete, h]
    · simp [new, isComplete, h, Ne.symm h]

namespace Holds

variable {w w' : Wait α} {items : List α}

/-- A wait that holds the same replies holds them too. -/
theorem same (h : w.Holds items) (hs : w.SameReplies w') : w'.Holds items where
  accepted := hs.accepted.trans h.accepted
  collected hd := hs.collected.trans (h.collected (hs.status ▸ hd))
  length_le := hs.expected ▸ h.length_le
  isComplete_iff := by
    rw [hs.expected, ← h.isComplete_iff]
    simp [isComplete, hs.status]

/-- A wait that collects is not full yet. -/
theorem length_lt (h : w.Holds items) (hc : w.status = .collecting) :
    items.length < w.expected := by
  apply Nat.lt_of_le_of_ne h.length_le
  intro heq
  have := h.isComplete_iff.mpr heq
  simp [isComplete, hc] at this

/-- A reply that is accepted stands behind those accepted before. -/
theorem append (h : w.Holds items) (hc : w.status = .collecting) (item : α) :
    (w.append item).2.Holds (items ++ [item]) := by
  have hlt := h.length_lt hc
  rw [append_of_collecting hc]
  refine ⟨by simp [h.accepted], ?_, by simp; omega, ?_⟩
  · intro _
    exact congrArg (· ++ [item]) (h.collected (by simp [hc]))
  · simp only [isComplete, h.accepted, List.length_append, List.length_singleton]
    by_cases hfull : w.expected ≤ items.length + 1
    · simpa [hfull] using by omega
    · simpa [hfull] using by omega

/-- Closing a wait takes no reply away. -/
theorem close (h : w.Holds items) : w.close.Holds items := by
  unfold Wait.close
  split
  · next hc =>
      refine ⟨h.accepted, fun _ => h.collected (by simp [hc]), h.length_le, ?_⟩
      rw [← h.isComplete_iff]
      simp [isComplete, hc]
  · exact h

/-- Taking the replies does not change which ones were accepted. -/
theorem take (h : w.Holds items) : w.take?.2.Holds items := by
  rcases take?_cases w with ⟨hc, ht⟩ | ⟨-, ht⟩ <;> rw [ht]
  · refine ⟨h.accepted, by simp, h.length_le, ?_⟩
    rw [← h.isComplete_iff]
    simp [isComplete, hc]
  · exact h

end Holds

end Wait

end ScatterGather
