import ScatterGather.Proofs.Dispatch.Resources
import ScatterGather.Proofs.Forward.Steps
import ScatterGather.Proofs.Route

/-!
# What a forwarding call holds

The channels that a call has given back and those that its stage says it holds are the channels it
has acquired, each for a data source of its own (`Holding`). This is one invariant for all the ways
in which a call can come to its end: a call that has ended holds nothing.
-/

namespace ScatterGather

/-- The groups whose channels a call holds. -/
def ForwardStage.held : ForwardStage → List UnitGroup
  | .acquiring a => a.held
  | .registering _ held | .sending _ held _ _ | .leaving _ held _ | .removing _ held _ => held
  | .sent _ _ | .waiting _ _ _ | .abandoning _ _ | .ended _ => []

/-- What a call has given back and what it holds is what it has acquired, in the order of its
groups. -/
structure Holding (groups : List UnitGroup) (call : Nat) (events : List (DispatchEvent Request))
    (stage : ForwardStage) : Prop where
  balance : releasedBy call events ++ stage.held.map (·.dataSource) = acquiredBy call events
  inOrder : acquiredBy call events <+: groups.map (·.dataSource)
  /-- Nothing is given back before everything has been acquired. -/
  acquiring : ∀ a, stage = .acquiring a → a.Of groups ∧ releasedBy call events = []

namespace Holding

variable {groups : List UnitGroup} {call : Nat} {events more : List (DispatchEvent Request)}
  {stage stage' : ForwardStage}

/-- A call that begins holds nothing. -/
theorem begin {route : Route} {keys : Bool} (h : ∀ e ∈ events, e.call ≠ call) :
    Holding (route.groups keys) call events (ForwardEngine.firstCall route keys).stage := by
  unfold ForwardEngine.firstCall
  refine ⟨?_, ?_, ?_⟩
  · simp only [recordedBy_others h]
    split <;> rfl
  · simp only [recordedBy_others h]
    exact List.nil_prefix
  · intro a ha
    dsimp only at ha
    split at ha
    · cases ha
    · cases ha
      exact ⟨Acquisition.of_ofGroups _, recordedBy_others h⟩

/-- What is neither an acquisition nor a release does not matter. -/
theorem quiet (h : Holding groups call events stage) (hacquired : acquiredBy call more = [])
    (hreleased : releasedBy call more = []) (hheld : stage'.held = stage.held)
    (hof : ∀ a, stage' = .acquiring a → a.Of groups ∧ ∃ b, stage = .acquiring b) :
    Holding groups call (events ++ more) stage' := by
  refine ⟨?_, ?_, ?_⟩
  · simp only [recordedBy_append, hacquired, hreleased, hheld, List.append_nil, h.balance]
  · simpa only [recordedBy_append, hacquired, List.append_nil] using h.inOrder
  · intro a ha
    obtain ⟨hofa, b, hb⟩ := hof a ha
    have hnone := (h.acquiring b hb).2
    exact ⟨hofa, by simp only [recordedBy_append, hreleased, hnone, List.append_nil]⟩

/-- What others record does not matter. -/
theorem others (h : Holding groups call events stage) (hmore : ∀ e ∈ more, e.call ≠ call) :
    Holding groups call (events ++ more) stage :=
  h.quiet (recordedBy_others hmore) (recordedBy_others hmore) rfl
    fun a ha => ⟨(h.acquiring a ha).1, a, ha⟩

/-- A call that gives back what it holds. -/
theorem release (h : Holding groups call events stage) (hheld : stage'.held = [])
    (hnot : ∀ a, stage' ≠ .acquiring a) :
    Holding groups call (events ++ Acquisition.releases call stage.held) stage' := by
  refine ⟨?_, ?_, fun a ha => absurd ha (hnot a)⟩
  · simpa [hheld] using h.balance
  · simpa using h.inOrder

/-- **What a call does keeps its books**, whichever way it takes. -/
theorem step {s : ForwardEngine} {units : List PhysicalUnit} {a : ForwardAction}
    {use : RegistryUse} (h : Holding groups call events stage)
    (hd : ForwardCall.Does s call units a stage use more stage') :
    Holding groups call (events ++ more) stage' := by
  cases hd with
  | asked ha =>
      obtain ⟨hof, -⟩ := h.acquiring _ rfl
      obtain ⟨-, -, rfl⟩ := Acquisition.ask?_eq_some.mp ha
      refine h.quiet (by simp) (by simp) rfl ?_
      rintro _ ⟨⟩
      exact ⟨hof.ask ha, _, rfl⟩
  | @granted acq acq' source ha =>
      obtain ⟨hof, hnone⟩ := h.acquiring _ rfl
      obtain ⟨-, g, rest, ht, rfl, rfl⟩ := Acquisition.grant?_eq_some.mp ha
      have hacquired : acquiredBy call (events ++ [.acquired call g.dataSource]) =
          (acq.held ++ [g]).map (·.dataSource) := by
        have hbalance := h.balance
        rw [hnone, List.nil_append] at hbalance
        simp [← hbalance, ForwardStage.held]
      have hreleased : releasedBy call (events ++ [.acquired call g.dataSource]) = [] := by
        simpa using hnone
      refine ⟨?_, ?_, ?_⟩
      · rw [hacquired, hreleased]
        rfl
      · rw [hacquired, ← hof.groups_eq, ht]
        exact ⟨rest.map (·.dataSource), by simp⟩
      · rintro _ ⟨⟩
        exact ⟨hof.grant ha, hreleased⟩
  | refused | droppedAcquiring | occupied _ | gaveBack | concluded _ | droppedRegistering =>
      exact h.release rfl nofun
  | tookId _ | registered _ | sends | sent | sendFailed | awaits | settled _ | abandoned _
  | leaves | droppedSending | droppedSent | droppedWaiting | cancels =>
      exact h.quiet (by simp) (by simp) rfl nofun

/-- A call that has ended has given back what it had acquired, each channel once and for the data
source it was for. -/
theorem released (h : Holding groups call events stage) (hheld : stage.held = [])
    (hgroups : (groups.map (·.dataSource)).Nodup) :
    releasedBy call events = acquiredBy call events ∧ (acquiredBy call events).Nodup := by
  refine ⟨?_, h.inOrder.sublist.nodup hgroups⟩
  have := h.balance
  rwa [hheld, List.map_nil, List.append_nil] at this

end Holding

/-- A call takes its own steps. -/
theorem ForwardCall.Does.call?_eq {s : ForwardEngine} {call : Nat} {units : List PhysicalUnit}
    {a : ForwardAction} {stage stage' : ForwardStage} {use : RegistryUse}
    {events : List (DispatchEvent Request)}
    (h : ForwardCall.Does s call units a stage use events stage') : a.call? = some call := by
  cases h <;> rfl

/-- What a call does it records in its own name. -/
theorem ForwardCall.Does.call_eq {s : ForwardEngine} {call : Nat} {units : List PhysicalUnit}
    {a : ForwardAction} {stage stage' : ForwardStage} {use : RegistryUse}
    {events : List (DispatchEvent Request)}
    (h : ForwardCall.Does s call units a stage use events stage') :
    ∀ e ∈ events, e.call = call := by
  have hreleases : ∀ held : List UnitGroup,
      ∀ e ∈ (Acquisition.releases call held : List (DispatchEvent Request)), e.call = call := by
    intro held e he
    obtain ⟨g, -, rfl⟩ := List.mem_map.mp he
    rfl
  cases h with
  | refused | droppedAcquiring | occupied _ | gaveBack | concluded _ | droppedRegistering =>
      exact hreleases _
  | asked _ | granted _ | sends =>
      intro e he
      obtain rfl := List.mem_singleton.mp he
      rfl
  | tookId _ | registered _ | sent | sendFailed | awaits | settled _ | abandoned _ | leaves
  | droppedSending | droppedSent | droppedWaiting | cancels =>
      intro e he
      cases he

namespace ForwardEngine

variable {s s' : ForwardEngine} {a : ForwardAction}

/-- Only calls that have begun record anything. -/
theorem Does.events_lt (h : s.Does a s') (he : ∀ e ∈ s.events, e.call < s.calls.length) :
    ∀ e ∈ s'.events, e.call < s'.calls.length := by
  cases h with
  | begin _ hcalls _ hevents =>
      rw [hevents, hcalls, List.length_append]
      exact fun e hin => Nat.lt_add_right _ (he e hin)
  | collector _ hcalls _ hevents => rwa [hevents, hcalls]
  | call hc hd hcalls _ hevents =>
      rw [hevents, hcalls, List.length_set]
      intro e hin
      rcases List.mem_append.mp hin with hin | hin
      · exact he e hin
      · rw [hd.call_eq e hin]
        exact (List.getElem?_eq_some_iff.mp hc).1

/-- A call that has not begun has recorded nothing. -/
theorem events_of_run {settings : ForwardSettings} {actions : List ForwardAction}
    (h : (new settings).run actions = some s) : ∀ e ∈ s.events, e.call < s.calls.length :=
  foldlM_invariant (P := fun s : ForwardEngine => ∀ e ∈ s.events, e.call < s.calls.length)
    (fun hP hstep => (does_of_step hstep).1.events_lt hP) (by simp [new]) h

/-- What an engine does is a step of a given call, or leaves that call where it stands. -/
theorem Does.call_cases (h : s.Does a s') {call : Nat} {c : ForwardCall}
    (hc : s.calls[call]? = some c) :
    (∃ use events stage, ForwardCall.Does s call c.units a c.stage use events stage ∧
      s'.calls[call]? = some { c with stage } ∧ s.collector.use? use = some s'.collector ∧
      s'.events = s.events ++ events) ∨
    a.call? ≠ some call ∧ s'.calls[call]? = some c ∧ ∃ events, s'.events = s.events ++ events ∧
      ∀ e ∈ events, e.call ≠ call := by
  cases h with
  | begin ha hcalls _ hevents =>
      refine .inr ⟨by rw [ha]; nofun, hcalls ▸ getElem?_append_of_eq_some hc, [], ?_, by simp⟩
      rw [hevents, List.append_nil]
  | collector ha hcalls _ hevents =>
      refine .inr ⟨by rw [ha]; nofun, hcalls ▸ hc, [], ?_, by simp⟩
      rw [hevents, List.append_nil]
  | @call k ck use events stage hck hd hcalls hcol hevents =>
      by_cases hk : k = call
      · subst hk
        obtain rfl := Option.some.inj (hc.symm.trans hck)
        refine .inl ⟨use, events, stage, hd, ?_, hcol, hevents⟩
        rw [hcalls, List.getElem?_set_self (List.getElem?_eq_some_iff.mp hc).1]
      · refine .inr ⟨?_, ?_, events, hevents, fun e he heq => hk ((hd.call_eq e he).symm.trans heq)⟩
        · rw [hd.call?_eq]
          exact fun h => hk (Option.some.inj h)
        · rw [hcalls, List.getElem?_set_ne hk, hc]

end ForwardEngine

end ScatterGather
