import ScatterGather.Proofs.Acquisition
import ScatterGather.Proofs.Run

/-!
# The resources of a call

What a call has asked for, got and given back is read off the events of an engine, connections and
channels alike. `recordedBy` is given what to read in an event; with it `requestedBy`, `acquiredBy`
and `releasedBy` list the data sources in order, and `sentBy` what the call has sent. `Disciplined`
says of a list of events that everything that happens on behalf of a call may happen after what has
happened before.
-/

namespace ScatterGather

variable {μ : Type}

namespace DispatchEvent

/-- The call on whose behalf something happens. -/
def call : DispatchEvent μ → Nat
  | requested call _ | acquired call _ | released call _ | sent call _ _ => call

section

variable (n : Nat) (source : String) (message : μ)

@[simp] theorem call_requested : (requested n source : DispatchEvent μ).call = n := rfl

@[simp] theorem call_acquired : (acquired n source : DispatchEvent μ).call = n := rfl

@[simp] theorem call_released : (released n source : DispatchEvent μ).call = n := rfl

@[simp] theorem call_sent : (sent n source message).call = n := rfl

end

/-- The data source whose resource is asked for. -/
@[simp] def requested? : DispatchEvent μ → Option String
  | requested _ source => some source
  | _ => none

/-- The data source whose resource has come. -/
@[simp] def acquired? : DispatchEvent μ → Option String
  | acquired _ source => some source
  | _ => none

/-- The data source whose resource is given back. -/
@[simp] def released? : DispatchEvent μ → Option String
  | released _ source => some source
  | _ => none

/-- What is sent, and to which data source. -/
@[simp] def sent? : DispatchEvent μ → Option (String × μ)
  | sent _ source message => some (source, message)
  | _ => none

end DispatchEvent

/-- What is read in the events of one call, in order. -/
def recordedBy {β : Type} (read? : DispatchEvent μ → Option β) (call : Nat)
    (events : List (DispatchEvent μ)) : List β :=
  events.filterMap fun e => if e.call = call then read? e else none

/-- The data sources whose resources a call has asked for, in order. -/
abbrev requestedBy (call : Nat) (events : List (DispatchEvent μ)) : List String :=
  recordedBy DispatchEvent.requested? call events

/-- The data sources whose resources a call has got, in order. -/
abbrev acquiredBy (call : Nat) (events : List (DispatchEvent μ)) : List String :=
  recordedBy DispatchEvent.acquired? call events

/-- The data sources whose resources a call has given back, in order. -/
abbrev releasedBy (call : Nat) (events : List (DispatchEvent μ)) : List String :=
  recordedBy DispatchEvent.released? call events

/-- What a call has sent, in order, and to which data sources. -/
abbrev sentBy (call : Nat) (events : List (DispatchEvent μ)) : List (String × μ) :=
  recordedBy DispatchEvent.sent? call events

section

variable {β : Type} (read? : DispatchEvent μ → Option β) (call : Nat)
  (events more : List (DispatchEvent μ))

@[simp] theorem recordedBy_nil : recordedBy read? call [] = [] := rfl

@[simp] theorem recordedBy_append :
    recordedBy read? call (events ++ more) =
      recordedBy read? call events ++ recordedBy read? call more :=
  List.filterMap_append

@[simp] theorem recordedBy_singleton (e : DispatchEvent μ) :
    recordedBy read? call [e] = (if e.call = call then read? e else none).toList :=
  filterMap_concat _ [] e

theorem mem_recordedBy {x : β} :
    x ∈ recordedBy read? call events ↔ ∃ e ∈ events, e.call = call ∧ read? e = some x := by
  simp [recordedBy]

@[simp] theorem recordedBy_map {α : Type} (event : α → DispatchEvent μ) (xs : List α) :
    recordedBy read? call (xs.map event) =
      xs.filterMap fun x => if (event x).call = call then read? (event x) else none :=
  List.filterMap_map

@[simp] theorem recordedBy_releases (groups : List UnitGroup) :
    recordedBy read? call (Acquisition.releases call groups) =
      groups.filterMap fun g => read? (.released call g.dataSource) := by
  simp [Acquisition.releases]

end

section

variable {call : Nat} {events : List (DispatchEvent μ)}

/-- What happens on behalf of others does not touch the resources of a call. -/
theorem recordedBy_others {β : Type} {read? : DispatchEvent μ → Option β}
    (h : ∀ e ∈ events, e.call ≠ call) : recordedBy read? call events = [] :=
  List.filterMap_eq_nil_iff.mpr fun e he => if_neg (h e he)

/-- What a call gives back it gives back in its own name. -/
theorem call_of_mem_releases {groups : List UnitGroup} {e : DispatchEvent μ}
    (h : e ∈ Acquisition.releases call groups) : e.call = call := by
  obtain ⟨g, -, rfl⟩ := List.mem_map.mp h
  rfl

end

/-! ### What may happen when -/

/-- What may happen on behalf of a call that needs a resource for each of some data sources. It asks
for them in turn, for each only when all before it have come. It sends when it has them all, over
those that it has not given back. It gives back what it has got, once. -/
def DispatchEvent.PermittedAfter (sources : List String) (call : Nat)
    (events : List (DispatchEvent μ)) : DispatchEvent μ → Prop
  | .requested _ source => acquiredBy call events = requestedBy call events ∧
    requestedBy call events ++ [source] <+: sources ∧ releasedBy call events = []
  | .acquired _ source => requestedBy call events = acquiredBy call events ++ [source] ∧
    releasedBy call events = []
  | .sent _ source _ => acquiredBy call events = sources ∧ source ∈ sources ∧
    source ∉ releasedBy call events
  | .released _ source => source ∈ acquiredBy call events ∧ source ∉ releasedBy call events

/-- Whatever happens on behalf of a call may happen then. -/
def Disciplined (sources : List String) (call : Nat) (events : List (DispatchEvent μ)) : Prop :=
  ∀ before e after, events = before ++ e :: after → e.call = call →
    e.PermittedAfter sources call before

namespace Disciplined

variable {sources : List String} {call : Nat} {events more : List (DispatchEvent μ)}
  {e : DispatchEvent μ}

/-- One event more. -/
theorem concat (h : Disciplined sources call events)
    (he : e.call = call → e.PermittedAfter sources call events) :
    Disciplined sources call (events ++ [e]) := by
  intro before x after heq hx
  rcases List.eq_nil_or_concat after with rfl | ⟨after, y, rfl⟩
  · obtain ⟨rfl, hcons⟩ := List.append_inj' heq rfl
    obtain rfl := List.singleton_inj.mp hcons
    exact he hx
  · rw [List.concat_eq_append, ← List.cons_append, ← List.append_assoc] at heq
    obtain ⟨rfl, -⟩ := List.append_inj' heq rfl
    exact h before x after rfl hx

/-- What others record does not matter. -/
theorem others (h : Disciplined sources call events) (hmore : ∀ e ∈ more, e.call ≠ call) :
    Disciplined sources call (events ++ more) := by
  induction more generalizing events with
  | nil => rwa [List.append_nil]
  | cons e more ih =>
      rw [← List.singleton_append, ← List.append_assoc]
      obtain ⟨he, hmore⟩ := List.forall_mem_cons.mp hmore
      exact ih (h.concat fun hcall => absurd hcall he) hmore

/-- A call sends to its own data sources. -/
theorem mem_of_sent (h : Disciplined sources call events) {x : String × μ}
    (hx : x ∈ sentBy call events) : x.1 ∈ sources := by
  obtain ⟨e, he, hcall, hsent⟩ := (mem_recordedBy ..).mp hx
  obtain ⟨before, after, rfl⟩ := List.append_of_mem he
  cases e with
  | sent other source m =>
      obtain rfl := Option.some.inj hsent
      exact (h before _ after rfl hcall).2.1
  | _ => cases hsent

/-- A call that has recorded nothing has done nothing wrong. -/
theorem of_others (h : ∀ e ∈ events, e.call ≠ call) : Disciplined sources call events := by
  have hnil : Disciplined sources call ([] : List (DispatchEvent μ)) := by
    intro before e after heq
    simp at heq
  exact hnil.others h

/-- A call may give back what it holds. -/
theorem releases (h : Disciplined sources call events) {held : List UnitGroup}
    (hnodup : (held.map (·.dataSource)).Nodup)
    (hheld : ∀ g ∈ held, g.dataSource ∈ acquiredBy call events ∧
      g.dataSource ∉ releasedBy call events) :
    Disciplined sources call (events ++ Acquisition.releases call held) := by
  induction held generalizing events with
  | nil => simpa [Acquisition.releases] using h
  | cons g held ih =>
      obtain ⟨hg, hheld⟩ := List.forall_mem_cons.mp hheld
      obtain ⟨hout, hnodup⟩ := List.nodup_cons.mp hnodup
      have hsplit : events ++ Acquisition.releases call (g :: held) =
          (events ++ [.released call g.dataSource]) ++ Acquisition.releases call held := by
        simp [Acquisition.releases]
      rw [hsplit]
      refine ih (h.concat fun _ => hg) hnodup fun g' hg' => ?_
      obtain ⟨hin, hnot⟩ := hheld g' hg'
      have hne : g'.dataSource ≠ g.dataSource := fun heq =>
        hout (List.mem_map.mpr ⟨g', hg', heq⟩)
      simp [hin, hnot, hne]

end Disciplined

end ScatterGather
