import ScatterGather.Dispatch.Acquisition

/-!
# Acquiring in turn

What a call holds and what it has still to acquire are its groups, in their order, whatever has been
asked for and granted (`Acquisition.Of`).
-/

namespace ScatterGather.Acquisition

variable {a a' : Acquisition} {source : String} {groups : List UnitGroup}

/-- A call that acquires for some groups: it has asked for at most one of those it does not hold. -/
structure Of (groups : List UnitGroup) (a : Acquisition) : Prop where
  groups_eq : a.held ++ a.todo = groups
  todo_ne : a.asked = true → a.todo ≠ []

theorem of_ofGroups (groups : List UnitGroup) : Of groups (.ofGroups groups) := ⟨rfl, nofun⟩

/-- A call asks for the next group when it has asked for none. -/
theorem ask?_eq_some :
    a.ask? = some (source, a') ↔ a.asked = false ∧
      (∃ g rest, a.todo = g :: rest ∧ source = g.dataSource) ∧ a' = { a with asked := true } := by
  obtain ⟨held, asked, todo⟩ := a
  cases asked <;> cases todo <;> simp [ask?, eq_comm]

/-- What is granted is what was asked for. -/
theorem grant?_eq_some :
    a.grant? = some (source, a') ↔ a.asked = true ∧
      ∃ g rest, a.todo = g :: rest ∧ source = g.dataSource ∧ a' = ⟨a.held ++ [g], false, rest⟩ := by
  obtain ⟨held, asked, todo⟩ := a
  cases asked <;> cases todo <;> simp [grant?, eq_comm, and_assoc]

theorem complete_iff : a.complete = true ↔ a.asked = false ∧ a.todo = [] := by
  simp [complete]

theorem Of.ask (h : Of groups a) (ha : a.ask? = some (source, a')) : Of groups a' := by
  obtain ⟨-, ⟨g, rest, ht, -⟩, rfl⟩ := ask?_eq_some.mp ha
  exact ⟨h.groups_eq, fun _ => by simp [ht]⟩

theorem Of.grant (h : Of groups a) (ha : a.grant? = some (source, a')) : Of groups a' := by
  obtain ⟨-, g, rest, ht, -, rfl⟩ := grant?_eq_some.mp ha
  exact ⟨by simpa [ht] using h.groups_eq, nofun⟩

/-- A call that has acquired everything holds its groups. -/
theorem Of.held_eq (h : Of groups a) (hc : a.complete = true) : a.held = groups := by
  have := h.groups_eq
  rwa [(complete_iff.mp hc).2, List.append_nil] at this

end ScatterGather.Acquisition
