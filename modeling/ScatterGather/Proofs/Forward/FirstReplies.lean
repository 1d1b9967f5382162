import ScatterGather.Proofs.Forward.Progress
import ScatterGather.Proofs.Route

/-!
# The first replies decide

The main result about forwarding, `forward_decided_by_first_replies`: once a call has registered
its id, its result is the verdict (`Forward.Verdict`) on the replies that have arrived under the id
until the deadline closed its wait, whatever else the engine does meanwhile; the call can be brought
to that result from wherever it stands; and neither the order of the first replies nor those behind
them matter.
-/

namespace ScatterGather

open Forward

/-! ### From the registration on -/

/-- A run in which a call registers its id: all its sends succeed, nobody else registers the id,
waits for it or removes it, and there are enough ids for all calls. -/
structure ForwardRun (settings : ForwardSettings) (route : Route) (keys : Bool) (call : Nat)
    (id : CorrelationId) (before after : List ForwardAction) (s₀ s₁ s : ForwardEngine) : Prop where
  before_run : (ForwardEngine.new settings).run before = some s₀
  registering : ∃ held, s₀.calls[call]? = some ⟨route.dispatchUnits keys, .registering id held⟩
  registers : s₀.step (.register call) = some s₁
  after_run : s₁.run after = some s
  sends : ∀ e, .sent call (some e) ∉ after
  own_id : ∀ a, .collector a ∈ before ++ after → a.claims? ≠ some id
  enough_ids : ((before ++ after).filterMap ForwardAction.takes?).length ≤ UInt64.size

/-- The settings of an engine never change. -/
theorem ForwardEngine.settings_of_run {s s' : ForwardEngine} {actions : List ForwardAction}
    (h : s.run actions = some s') : s'.settings = s.settings :=
  foldlM_invariant (P := fun s' : ForwardEngine => s'.settings = s.settings)
    (fun hP hstep => (moves_of_step hstep).2.trans hP) rfl h

namespace ForwardRun

variable {settings : ForwardSettings} {route : Route} {keys : Bool} {call : Nat}
  {id : CorrelationId} {before after : List ForwardAction} {s₀ s₁ s : ForwardEngine}

/-- The number of the wait that the call registers. -/
abbrev number (s₀ : ForwardEngine) : Nat := s₀.collector.registry.waits.length

/-- Where a call stands that has just registered its id. -/
theorem onCourse_nil (h : ForwardRun settings route keys call id before after s₀ s₁ s) :
    OnCourse id (number s₀) (route.dispatchUnits keys) call [] s₁ := by
  obtain ⟨held, hc⟩ := h.registering
  have hT := tickets_of_run h.before_run
  have hlen : (before.filterMap ForwardAction.takes?).length ≤ UInt64.size :=
    Nat.le_trans (by simp) h.enough_ids
  have hforeign : id ∉ before.filterMap ForwardAction.foreign? := by
    intro hin
    obtain ⟨a, ha, hid⟩ := List.mem_filterMap.mp hin
    cases a with
    | collector a => exact h.own_id a (List.mem_append_left _ ha) hid
    | _ => cases hid
  obtain ⟨⟨owners, events, hO, hown⟩, hserve⟩ := hT.unused hlen hc rfl hforeign
  have hfree : id ∉ owners := fun hin => hown id hin rfl
  obtain ⟨hm, hset⟩ := ForwardEngine.moves_of_step h.registers
  cases hm with
  | begin ha _ _ | collector ha _ _ => cases ha
  | @call k ck use stage hck hm hcalls hcol =>
      generalize hst : ck.stage = stage₀ at hm
      cases hm with
      | registered hf =>
          obtain rfl := Option.some.inj (hc.symm.trans hck)
          cases hst
          have hcol' : { s₀.collector with
              registry := s₀.collector.registry.enter id (route.dispatchUnits keys).length } =
                s₁.collector := by
            simpa [Collector.use?, Collector.step, Registry.register_of_none hf] using hcol
          refine .inr ⟨.sending id held (route.dispatchUnits keys) false,
            .new (route.dispatchUnits keys).length, ?_, ?_, ?_⟩
          · rw [hcalls, List.getElem?_set_self (List.getElem?_eq_some_iff.mp hc).1]
          · rw [← hcol']
            exact ⟨Collector.belongs_enter hO hfree _, by simp [Registry.wait?_enter], rfl,
              by simpa using Wait.holds_new _, fun _ => by simp [Registry.find?_enter hf]⟩
          · rw [← hcol']
            refine .sending (fun h => by cases h) rfl ⟨?_, by simp [Registry.find?_enter hf]⟩
              fun task t ht ho hid => absurd hid (hserve ht ho)
            unfold Wait.new
            split <;> simp
      | occupied hf =>
          obtain rfl := Option.some.inj (hc.symm.trans hck)
          cases hst
          exact absurd (List.mem_of_getElem? (hO.entry hf)) hfree

/-- **The call is on its course** with the replies that have arrived, or has been given up. -/
theorem onCourse (h : ForwardRun settings route keys call id before after s₀ s₁ s) :
    OnCourse id (number s₀) (route.dispatchUnits keys) call
      (s₁.arrivals id (number s₀) after) s := by
  obtain ⟨held, hc⟩ := h.registering
  obtain ⟨i, hi, rfl⟩ := (tickets_of_run h.before_run).holder hc rfl
  refine foldlM_induction (P := fun as s => as <+: after → OnCourse (ticketId i) (number s₀)
    (route.dispatchUnits keys) call (s₁.arrivals (ticketId i) (number s₀) as) s)
    (fun _ => h.onCourse_nil) ?_ h.after_run (List.prefix_refl after)
  intro as u a u' hrun hP hstep hpre
  have hsub : as <+: after := (List.prefix_append as [a]).trans hpre
  have ha : a ∈ after := hpre.subset (by simp)
  have htotal : (ForwardEngine.new settings).run (before ++ .register call :: as) = some u :=
    foldlM_append_eq_some.mpr ⟨s₀, h.before_run, foldlM_cons_eq_some.mpr ⟨s₁, h.registers, hrun⟩⟩
  have htaken : ((before ++ .register call :: as).filterMap ForwardAction.takes?) =
      before.filterMap ForwardAction.takes? ++ as.filterMap ForwardAction.takes? := by
    rw [List.filterMap_append, List.filterMap_cons_none rfl]
  have hT := tickets_of_run htotal
  rw [htaken] at hT
  rw [ForwardEngine.arrivals, emitted_concat hrun]
  obtain ⟨hm, hset⟩ := ForwardEngine.moves_of_step hstep
  refine (hP hsub).move hm hset hT ?_ ⟨i, ?_, rfl⟩ ?_ ?_ ?_
  · obtain ⟨rest, rfl⟩ := hsub
    have := h.enough_ids
    simp only [List.filterMap_append, List.length_append] at this ⊢
    omega
  · exact getElem?_append_of_eq_some hi
  · rw [Route.length_dispatchUnits]
    exact route.index_dispatchUnits keys
  · intro hf
    cases a with
    | collector ca => exact h.own_id ca (List.mem_append_right _ ha) hf
    | _ => cases hf
  · rintro e rfl
    exact h.sends e ha

/-- The result of a call is the verdict on the replies that have arrived. -/
theorem verdict (h : ForwardRun settings route keys call id before after s₀ s₁ s)
    {r : Except ExecutionError Response} (hend : s.stage? call = some (.ended (.result r))) :
    Verdict id settings.timeout (route.dispatchUnits keys)
      (s₁.arrivals id (number s₀) after) r := by
  have hset : s.settings = settings :=
    (ForwardEngine.settings_of_run h.after_run).trans
      ((ForwardEngine.moves_of_step h.registers).2.trans
        (ForwardEngine.settings_of_run h.before_run))
  obtain ⟨c, hc, hst⟩ := ForwardEngine.stage?_eq_some.mp hend
  rcases h.onCourse with ⟨c', hc', hgone⟩ | ⟨stage, w, hc', -, hs⟩
  · obtain rfl := Option.some.inj (hc.symm.trans hc')
    rw [hst] at hgone
    rcases hgone with hgone | ⟨_, _, _, _, _, _, hgone, -⟩ <;> cases hgone
  · obtain rfl := Option.some.inj (hc.symm.trans hc')
    cases hst
    cases hs with
    | ended _ hv => exact hset ▸ hv

/-- A run can be continued by steps by which its call goes on. -/
theorem extend (h : ForwardRun settings route keys call id before after s₀ s₁ s)
    {more : List ForwardAction} {s' : ForwardEngine} (hrun : s.run more = some s')
    (hmore : ∀ a ∈ more, a.IsStepOf call) :
    ForwardRun settings route keys call id before (after ++ more) s₀ s₁ s' where
  before_run := h.before_run
  registering := h.registering
  registers := h.registers
  after_run := foldlM_append_eq_some.mpr ⟨s, h.after_run, hrun⟩
  sends e he := by
    rcases List.mem_append.mp he with he | he
    · exact h.sends e he
    · cases hmore _ he
  own_id a ha := by
    rw [← List.append_assoc] at ha
    rcases List.mem_append.mp ha with ha | ha
    · exact h.own_id a ha
    · cases hmore _ ha <;> exact nofun
  enough_ids := by
    have hnone : more.filterMap ForwardAction.takes? = [] := by
      apply List.filterMap_eq_nil_iff.mpr
      intro a ha
      cases hmore a ha <;> rfl
    rw [← List.append_assoc, List.filterMap_append, hnone, List.append_nil]
    exact h.enough_ids

/-- A call that has not been given up can be brought to its result, and no reply arrives
meanwhile. -/
theorem canEnd (h : ForwardRun settings route keys call id before after s₀ s₁ s)
    (hgone : ¬s.GaveUp call) :
    ∃ more s' r, ForwardRun settings route keys call id before (after ++ more) s₀ s₁ s' ∧
      (∀ a ∈ more, a.IsStepOf call) ∧
      s₁.arrivals id (number s₀) (after ++ more) = s₁.arrivals id (number s₀) after ∧
      s'.stage? call = some (.ended (.result r)) := by
  obtain ⟨more, s', r, hrun, hmore, hquiet, hend⟩ := h.onCourse.canEnd hgone
  have harr : s₁.arrivals id (number s₀) (after ++ more) = s₁.arrivals id (number s₀) after := by
    rw [ForwardEngine.arrivals, emitted_append h.after_run]
    exact (congrArg _ (hquiet id (number s₀))).trans (List.append_nil _)
  exact ⟨more, s', r, h.extend hrun hmore, hmore, harr, hend⟩

end ForwardRun

/-! ### The main result -/

/-- **The first replies decide.** Whenever a call ends, its result is the verdict on the replies
that have arrived; unless it is given up it can be brought to its end without a further reply; and
two runs in which the first `n` replies are the same, in whatever order and whatever comes behind
them, end with the same result. -/
theorem forward_decided_by_first_replies {settings : ForwardSettings} {route : Route} {keys : Bool}
    {call : Nat} {id : CorrelationId} {before after : List ForwardAction} {s₀ s₁ s : ForwardEngine}
    (h : ForwardRun settings route keys call id before after s₀ s₁ s) :
    (∀ r, s.stage? call = some (.ended (.result r)) →
      Verdict id settings.timeout (route.dispatchUnits keys)
        (s₁.arrivals id (ForwardRun.number s₀) after) r) ∧
    (¬s.GaveUp call → ∃ more s' r, s.run more = some s' ∧ (∀ a ∈ more, a.IsStepOf call) ∧
      s'.stage? call = some (.ended (.result r)) ∧
      Verdict id settings.timeout (route.dispatchUnits keys)
        (s₁.arrivals id (ForwardRun.number s₀) after) r) ∧
    ∀ {call' : Nat} {before' after' : List ForwardAction} {s₀' s₁' s' : ForwardEngine} {r r'},
      ForwardRun settings route keys call' id before' after' s₀' s₁' s' →
      route.size ≤ (s₁.arrivals id (ForwardRun.number s₀) after).length →
      route.size ≤ (s₁'.arrivals id (ForwardRun.number s₀') after').length →
      ((s₁.arrivals id (ForwardRun.number s₀) after).take route.size).Perm
        ((s₁'.arrivals id (ForwardRun.number s₀') after').take route.size) →
      s.stage? call = some (.ended (.result r)) → s'.stage? call' = some (.ended (.result r')) →
      r = r' := by
  refine ⟨fun r hend => h.verdict hend, ?_, ?_⟩
  · intro hgone
    obtain ⟨more, s', r, h', hmore, harr, hend⟩ := h.canEnd hgone
    obtain ⟨u, hu, hrun⟩ := foldlM_append_eq_some.mp h'.after_run
    obtain rfl := Option.some.inj (h.after_run.symm.trans hu)
    exact ⟨more, s', r, hrun, hmore, hend, harr ▸ h'.verdict hend⟩
  · intro call' before' after' s₀' s₁' s' r r' h' hlen hlen' hp hend hend'
    have hsize : (route.dispatchUnits keys).length = route.size := route.length_dispatchUnits keys
    have hidx : (route.dispatchUnits keys).map (·.index) =
        List.range (route.dispatchUnits keys).length := by
      rw [hsize]
      exact route.index_dispatchUnits keys
    rw [← hsize] at hlen hlen' hp
    exact ((h.verdict hend).congr hlen hlen' hp).unique hidx (h'.verdict hend')

/-- A statement for two data sources. -/
def twoSources : Route :=
  ((Route.ofStatement (.ofKind .dml)).withUnit "ds_0" "a").withUnit "ds_1" "b"

/-- A call for it takes an id. -/
def takingAnId : List ForwardAction :=
  [.begin twoSources false, .ask 0, .acquired 0 none, .ask 0, .acquired 0 none, .takeId 0]

/-- Behind its registration its units are sent, and the reply to the second one arrives first. -/
def answeredOutOfOrder : List ForwardAction :=
  [.send 0, .sent 0 none, .send 0, .sent 0 none,
    .collector (.offer 1 ⟨1, 1, .ok 3 0⟩), .collector (.advance 0), .collector (.advance 0),
    .giveBack 0, .await 0, .collector (.advance 1), .collector (.advance 1),
    .collector (.offer 1 ⟨1, 0, .ok 4 0⟩), .collector (.advance 2), .collector (.advance 2),
    .collector (.advance 1), .collector (.advance 1), .collector (.advance 1),
    .collector (.advance 1), .settle 0, .leave 0, .collector (.advance 3), .conclude 0]

/-- The order in which the replies have arrived does not show in the result. -/
theorem forward_decided_by_first_replies_swapped : ∃ s₀ s₁ s,
    ForwardRun ⟨.ofSeconds 1, none, false⟩ twoSources false 0 1 takingAnId answeredOutOfOrder
      s₀ s₁ s ∧
    s₁.arrivals 1 0 answeredOutOfOrder = [⟨1, 1, .ok 3 0⟩, ⟨1, 0, .ok 4 0⟩] ∧
    s.stage? 0 = some (.ended (.result (.ok (.update [⟨4, 0⟩, ⟨3, 0⟩])))) := by
  have h : ForwardRun ⟨.ofSeconds 1, none, false⟩ twoSources false 0 1 takingAnId
      answeredOutOfOrder _ _ _ :=
    ⟨rfl, ⟨_, rfl⟩, rfl, rfl, by simp [answeredOutOfOrder],
      by simp [takingAnId, answeredOutOfOrder, CollectorAction.claims?], by decide⟩
  have hv := (forward_decided_by_first_replies h).1 _ rfl
  have ho : [ReplyFrame.mk 1 0 (.ok 4 0), ⟨1, 1, .ok 3 0⟩].map (·.reply.toOutcome) =
      [Success.update ⟨4, 0⟩, .update ⟨3, 0⟩].map Success.toOutcome := rfl
  have hr := hv.unique rfl (.answered (Nat.le_refl 2) (.swap _ _ []) rfl ho)
  exact ⟨_, _, _, h, rfl, congrArg (some ∘ ForwardStage.ended ∘ ForwardEnd.result) hr⟩

end ScatterGather
