import ScatterGather.Proofs.Forward.Apart
import ScatterGather.Proofs.Forward.Registrations

/-!
# A call leaves nothing behind

However a call ends, be it that a channel is refused, its id is taken, a send fails, its deadline
passes, its replies do not add up, or that its caller gives it up, it has given back every channel
that it acquired and has no entry in the registry, where replies under its id are refused from then
on (`CleanedUp`). What belongs to others it has not touched. All this holds of every run in which
nobody else registers the id of the call, as is so when ids are taken from the registry
(`registersAlone_of_takes`).
-/

namespace ScatterGather

/-- A run in which a call begins among others; anything may happen besides. -/
structure ForwardEngine.CallRun (settings : ForwardSettings) (route : Route) (keys : Bool)
    (call : Nat) (before after : List ForwardAction) (s₀ s : ForwardEngine) : Prop where
  before_run : (ForwardEngine.new settings).run before = some s₀
  number : call = s₀.calls.length
  after_run : s₀.run (.begin route keys :: after) = some s

/-- What a call has left behind that has ended. -/
structure CleanedUp (call : Nat) (rs : List Registration) (s : ForwardEngine) : Prop where
  /-- It has given back each channel that it acquired, for the data source it was for, -/
  channels : releasedBy call s.events = acquiredBy call s.events
  /-- and no channel twice. -/
  once : (releasedBy call s.events).Nodup
  /-- What it registered is not registered any more, -/
  entries : ∀ r ∈ rs, r.call? = some call → s.collector.registry.find? r.id = none
  /-- so that a reply that is looked up there is refused and counted. -/
  offers : ∀ r ∈ rs, r.call? = some call → ∀ task item,
    s.collector.tasks[task]? = some (.offer r.id (.finding item)) →
      ∃ s', s.step (.collector (.advance task)) = some s' ∧
        s'.collector.tasks[task]? = some (.offer r.id (.ended false)) ∧
        s'.collector.registry = s.collector.registry.discard ∧
        s'.collector.registry.discarded = s.collector.registry.discarded + 1

/-- How a call will have ended that is on its way out. -/
def ForwardStage.leavesAs? : ForwardStage → Option ForwardEnd
  | .abandoning _ _ => some .dropped
  | .leaving _ _ how | .removing _ _ how | .ended how => some how
  | _ => none

namespace ForwardEngine

variable {settings : ForwardSettings} {route : Route} {keys : Bool} {call : Nat}
  {before after : List ForwardAction} {s₀ s s' : ForwardEngine}

/-- An offer that looks up an id without an entry is refused. -/
theorem refused_of_find? {id : CorrelationId} (hf : s.collector.registry.find? id = none)
    {task : Nat} {item : ReplyFrame}
    (ht : s.collector.tasks[task]? = some (.offer id (.finding item))) :
    ∃ s', s.step (.collector (.advance task)) = some s' ∧
      s'.collector.tasks[task]? = some (.offer id (.ended false)) ∧
      s'.collector.registry = s.collector.registry.discard ∧
      s'.collector.registry.discarded = s.collector.registry.discarded + 1 := by
  let c' := s.collector.put task (.offer id (.ended false)) s.collector.registry.discard
    [discardLine id]
  refine ⟨{ s with collector := c' }, ?_, ?_, rfl, rfl⟩
  · simp [step, collect?, Collector.step, Collector.advance, ht, Collector.advanceOffer, hf, c']
  · exact List.getElem?_set_self (List.getElem?_eq_some_iff.mp ht).1

namespace CallRun

/-- What is kept by every step from the beginning of the call on. -/
theorem induction {P : List ForwardAction → ForwardEngine → Prop}
    (h : CallRun settings route keys call before after s₀ s)
    (start : ∀ s₁, s₁.calls[call]? = some (firstCall route keys) → s₁.events = s₀.events →
      P [.begin route keys] s₁)
    (next : ∀ {as u a u'}, as ++ [a] <+: .begin route keys :: after → s₀.run as = some u →
      P as u → u.Does a u' → P (as ++ [a]) u') : P (.begin route keys :: after) s := by
  obtain ⟨s₁, hbegin, hrun⟩ := foldlM_cons_eq_some.mp h.after_run
  refine foldlM_induction (P := fun as u => as <+: after → P (.begin route keys :: as) u) ?_ ?_
    hrun (List.prefix_refl after)
  · intro _
    cases hbegin
    refine start _ ?_ rfl
    rw [h.number]
    exact List.getElem?_concat_length
  · intro as u a u' hrun' hP hstep hpre
    exact next ((List.prefix_cons_inj _).mpr hpre) (foldlM_cons_eq_some.mpr ⟨s₁, hbegin, hrun'⟩)
      (hP ((List.prefix_append as [a]).trans hpre)) (does_of_step hstep).1

/-- The channels that the call holds and has given back are those it has acquired. -/
theorem holding (h : CallRun settings route keys call before after s₀ s) :
    ∃ c, s.calls[call]? = some c ∧ Holding (route.groups keys) call s.events c.stage := by
  refine h.induction (P := fun _ s => ∃ c, s.calls[call]? = some c ∧
    Holding (route.groups keys) call s.events c.stage) ?_ ?_
  · intro s₁ hc hevents
    refine ⟨_, hc, .begin fun e he => ?_⟩
    rw [hevents] at he
    exact Nat.ne_of_lt (h.number ▸ events_of_run h.before_run e he)
  · rintro as u a u' - - ⟨c, hc, hh⟩ hd
    rcases hd.call_cases hc with ⟨use, events, stage, hown, hc', -, hevents⟩ |
      ⟨-, hc', events, hevents, hothers⟩
    · exact ⟨_, hc', hevents ▸ hh.step hown⟩
    · exact ⟨c, hc', hevents ▸ hh.others hothers⟩

/-- The registration of the call is under its guard. -/
theorem guarding (h : CallRun settings route keys call before after s₀ s)
    (halone : RegistersAlone call (s₀.registrations (.begin route keys :: after))) :
    Guarding call (s₀.registrations (.begin route keys :: after)) s := by
  refine h.induction (P := fun as s => Guarding call (s₀.registrations as) s) ?_ ?_
  · intro s₁ hc _
    exact .begin hc
  · intro as u a u' hpre hrun hg hd
    obtain ⟨bs, hbs⟩ := hpre
    rw [registrations, emitted_concat hrun]
    apply hg.step hd
    rw [← hbs, registrations] at halone
    obtain ⟨u', hstep⟩ : ∃ u', s₀.run (as ++ [a]) = some u' := by
      obtain ⟨u', hu', -⟩ := foldlM_append_eq_some.mp (hbs ▸ h.after_run)
      exact ⟨u', hu'⟩
    rw [emitted_append hstep, emitted_concat hrun] at halone
    exact (List.pairwise_append.mp halone).1

end CallRun

/-! ### On the way out -/

/-- A call that is given up is on its way out. -/
theorem leavesAs?_of_drop {units : List PhysicalUnit} {stage stage' : ForwardStage}
    {use : RegistryUse} {events : List (DispatchEvent Request)}
    (h : ForwardCall.Does s call units (.drop call) stage use events stage') :
    stage'.leavesAs? = some .dropped := by
  cases h <;> rfl

/-- A call that is on its way out gets there by its own steps. -/
theorem endsAs_of_guarding {rs : List Registration} (h : Guarding call rs s)
    {stage : ForwardStage} {how : ForwardEnd} (hst : s.stage? call = some stage)
    (hl : stage.leavesAs? = some how) : s.EndsAs call how := by
  obtain ⟨⟨units, stage⟩, hc, rfl⟩ := stage?_eq_some.mp hst
  cases h with
  | unregistered hc' hbare _ =>
      obtain rfl := Option.some.inj (hc.symm.trans hc')
      cases stage with
      | ended _ =>
          cases hl
          exact endsAs_ended hc
      | acquiring _ | registering _ _ => cases hl
      | _ => cases hbare
  | registered _ _ _ hg =>
      obtain ⟨-, c, hc', hguards⟩ := hg
      obtain rfl := Option.some.inj (hc.symm.trans hc')
      cases stage with
      | abandoning _ _ =>
          cases hl
          obtain ⟨-, -, timeout, stage, ht, hs⟩ := hguards
          exact endsAs_abandoning hc ht hs
      | leaving _ _ _ =>
          cases hl
          exact endsAs_leaving hc
      | removing _ _ _ =>
          cases hl
          obtain ⟨-, stage, ht, -⟩ := hguards
          exact endsAs_removing hc ht
      | ended _ =>
          cases hl
          exact endsAs_ended hc
      | _ => cases hl

end ForwardEngine

/-! ### Ids that are taken from the registry -/

/-- What a call registers is the id of its ticket. -/
theorem Tickets.of_registration {taken : List Nat} {foreign : List CorrelationId}
    {s : ForwardEngine} {a : ForwardAction} {r : Registration} (h : Tickets taken foreign s)
    (hr : s.registration? a = some r) (ha : ∀ id n, a ≠ .collector (.register id n)) :
    ∃ k i, r.call? = some k ∧ taken[i]? = some k ∧ r.id = ticketId i := by
  cases a with
  | register k =>
      obtain ⟨stage, hst, hr⟩ := Option.bind_eq_some_iff.mp hr
      obtain ⟨c, hc, rfl⟩ := ForwardEngine.stage?_eq_some.mp hst
      split at hr
      · next id held hreg =>
          split at hr <;> cases hr
          obtain ⟨i, hi, hid⟩ := h.holder hc (by rw [hreg]; rfl)
          exact ⟨k, i, rfl, hi, hid⟩
      · cases hr
  | collector ca =>
      obtain ⟨id, hid, -⟩ := Option.map_eq_some_iff.mp hr
      cases ca with
      | register id n => exact absurd rfl (ha id n)
      | _ => cases hid
  | _ => cases hr

/-- **Ids that calls have taken are registered by one call only**, as long as there are enough of
them. -/
theorem registersAlone_of_takes {settings : ForwardSettings} {before actions : List ForwardAction}
    {s₀ s : ForwardEngine} (hbefore : (ForwardEngine.new settings).run before = some s₀)
    (hrun : s₀.run actions = some s)
    (hcalls : ∀ id n, .collector (.register id n) ∉ actions)
    (hids : ((before ++ actions).filterMap ForwardAction.takes?).length ≤ UInt64.size)
    (call : Nat) : RegistersAlone call (s₀.registrations actions) := by
  have hticket : ∀ r ∈ s₀.registrations actions, ∃ k i, r.call? = some k ∧
      ((before ++ actions).filterMap ForwardAction.takes?)[i]? = some k ∧ r.id = ticketId i := by
    refine foldlM_induction (P := fun as _ => as <+: actions → ∀ r ∈ s₀.registrations as,
      ∃ k i, r.call? = some k ∧
        ((before ++ actions).filterMap ForwardAction.takes?)[i]? = some k ∧ r.id = ticketId i)
      (fun _ r hr => by cases hr) ?_ hrun (List.prefix_refl actions)
    intro as u a u' hrun' hP _ hpre r hr
    rw [ForwardEngine.registrations, emitted_concat hrun'] at hr
    rcases List.mem_append.mp hr with hr | hr
    · exact hP ((List.prefix_append as [a]).trans hpre) r hr
    · obtain ⟨bs, rfl⟩ := hpre
      have htickets := tickets_of_run (foldlM_append_eq_some.mpr ⟨s₀, hbefore, hrun'⟩)
      obtain ⟨k, i, hk, hi, hid⟩ := htickets.of_registration (Option.mem_toList.mp hr)
        fun id n heq => hcalls id n (heq ▸ by simp)
      refine ⟨k, i, hk, ?_, hid⟩
      rw [← List.append_assoc, ← List.append_assoc, List.filterMap_append, List.filterMap_append]
      exact getElem?_append_of_eq_some (getElem?_append_of_eq_some hi)
  refine List.pairwise_of_forall_mem_list fun r hr r' hr' hcall hcall' heq => ?_
  obtain ⟨k, i, hk, hi, hid⟩ := hticket r hr
  obtain ⟨k', i', hk', hi', hid'⟩ := hticket r' hr'
  have hlt := (List.getElem?_eq_some_iff.mp hi).1
  have hlt' := (List.getElem?_eq_some_iff.mp hi').1
  obtain rfl := ticketId_injOn (by omega) (by omega) (hid'.symm.trans (heq.trans hid))
  exact hcall' (hk'.trans ((hi'.symm.trans hi).trans (hk.symm.trans hcall)))

/-! ### The main theorem -/

/-- **A call leaves nothing behind.** In every run, whatever is refused, fails, is offered or given
up, and as long as nobody registers the id of the call after it has: when the call has ended it has
cleaned up. Every step that it takes leaves the registrations of others alone, also where its own
id was taken. And it does end: from wherever it is on its way out, as it is when it is given up, it
gets to its end by its own steps. -/
theorem forward_cleans_up {settings : ForwardSettings} {route : Route} {keys : Bool} {call : Nat}
    {before after : List ForwardAction} {s₀ s : ForwardEngine}
    (h : ForwardEngine.CallRun settings route keys call before after s₀ s)
    (halone : RegistersAlone call (s₀.registrations (.begin route keys :: after))) :
    (∀ how, s.stage? call = some (.ended how) →
      CleanedUp call (s₀.registrations (.begin route keys :: after)) s) ∧
    (∀ a s', s.step a = some s' → s.IsOwnStep call a →
      LeavesOthers call (s₀.registrations (.begin route keys :: after ++ [a])) s s') ∧
    (∀ stage how, s.stage? call = some stage → stage.leavesAs? = some how → s.EndsAs call how) ∧
    ∀ s', s.step (.drop call) = some s' → s'.EndsAs call .dropped := by
  have hguarding := h.guarding halone
  obtain ⟨c, hc, hholding⟩ := h.holding
  refine ⟨?_, ?_, fun _ _ => ForwardEngine.endsAs_of_guarding hguarding, ?_⟩
  · intro how hend
    obtain ⟨c', hc', hst⟩ := ForwardEngine.stage?_eq_some.mp hend
    obtain rfl := Option.some.inj (hc.symm.trans hc')
    have hfind : ∀ r ∈ s₀.registrations (.begin route keys :: after), r.call? = some call →
        s.collector.registry.find? r.id = none := by
      intro r hr hcall
      cases hguarding with
      | unregistered _ _ hnone => exact absurd hcall (hnone r hr)
      | registered _ _ honly hg =>
          obtain ⟨-, c', hc', hguards⟩ := hg
          obtain rfl := Option.some.inj (hc.symm.trans hc')
          rw [hst] at hguards
          rw [honly r hr hcall]
          exact hguards
    obtain ⟨hreleased, honce⟩ := hholding.released (by rw [hst]; rfl) (route.nodup_groups keys)
    exact ⟨hreleased, hreleased ▸ honce, hfind,
      fun r hr hcall _ _ => ForwardEngine.refused_of_find? (hfind r hr hcall)⟩
  · intro a s' hstep hown
    rw [ForwardEngine.registrations, emitted_concat h.after_run]
    exact hguarding.leavesOthers (ForwardEngine.does_of_step hstep).1 hown
  · intro s' hstep
    have hd := (ForwardEngine.does_of_step hstep).1
    have hnone : s.registration? (.drop call) = none := rfl
    have hguarding' := hguarding.step hd (by rwa [hnone, Option.toList_none, List.append_nil])
    rcases hd.call_cases hc with ⟨use, events, stage, hown, hc', -, -⟩ | ⟨hne, -⟩
    · exact ForwardEngine.endsAs_of_guarding hguarding'
        (ForwardEngine.stage?_eq_some.mpr ⟨_, hc', rfl⟩) (ForwardEngine.leavesAs?_of_drop hown)
    · exact absurd rfl hne

/-- A call is given up while it waits, and a reply comes for it afterwards. -/
def givenUpWaiting : List ForwardAction :=
  [.ask 0, .acquired 0 none, .takeId 0, .register 0, .send 0, .sent 0 none, .giveBack 0, .await 0,
    .collector (.advance 0), .collector (.advance 0), .collector (.advance 0),
    .collector (.advance 0), .drop 0, .collector (.advance 0), .collector (.advance 0), .settle 0,
    .leave 0, .collector (.advance 1), .conclude 0, .collector (.offer 1 ⟨1, 0, .ok 3 0⟩)]

/-- A call that is given up while it waits cleans up. -/
theorem forward_cleans_up_waiting : ∃ s₀ s,
    ForwardEngine.CallRun ⟨.ofSeconds 1, none, false⟩ oneSource false 0 [] givenUpWaiting s₀ s ∧
    s.stage? 0 = some (.ended .dropped) ∧
    (s₀.registrations (.begin oneSource false :: givenUpWaiting)).map (·.id) = [1] ∧
    CleanedUp 0 (s₀.registrations (.begin oneSource false :: givenUpWaiting)) s := by
  have h : ForwardEngine.CallRun ⟨.ofSeconds 1, none, false⟩ oneSource false 0 [] givenUpWaiting
      _ _ := ⟨rfl, rfl, rfl⟩
  have halone := registersAlone_of_takes h.before_run h.after_run
    (by simp [givenUpWaiting]) (by decide) 0
  exact ⟨_, _, h, rfl, rfl, (forward_cleans_up h halone).1 _ rfl⟩

end ScatterGather
