import ScatterGather.Proofs.Acquisition
import ScatterGather.Proofs.Forward.Encounters

/-!
# How a forwarded statement fares

What a call has met says how it stands (`Faring`): it acquires its channels one after the other and
registers its id, which nobody else has; from then on it goes its course with the replies in time;
and a channel that fails ends it. Every move of the engine keeps this (`Faring.move`), so it holds
behind every run in which only calls use the registry (`Forwarding.faring`).
-/

namespace ScatterGather

/-! ### A call that is about to end -/

/-- A call has its result, and only has to leave. -/
inductive ForwardStage.IsEnding (c : Collector ReplyFrame)
    (r : Except ExecutionError Response) : ForwardStage → Prop where
  | leaving {id held} : IsEnding c r (.leaving id held (.result r))
  | removing {task held id stage} (ht : c.tasks[task]? = some (.unregister id stage)) :
    IsEnding c r (.removing task held (.result r))
  | ended : IsEnding c r (.ended (.result r))

namespace ForwardEngine

variable {s s' : ForwardEngine} {a : ForwardAction} {call : Nat} {c : ForwardCall}
  {r : Except ExecutionError Response}

/-- A removal stays one. -/
theorem Moves.unregister_kept (h : s.Moves a s') {task : Nat} {id : CorrelationId}
    {stage : RemovalStage} (ht : s.collector.tasks[task]? = some (.unregister id stage)) :
    ∃ stage', s'.collector.tasks[task]? = some (.unregister id stage') := by
  rcases h.collector_cases with ⟨-, heq⟩ | ⟨ca, hm, -⟩
  · exact ⟨stage, heq ▸ ht⟩
  · exact hm.unregister_kept ht

/-- A move of an engine is one of a given call, or leaves that call where it stands, and then the
call can meet only what happens in the collector. -/
theorem Moves.call_cases (h : s.Moves a s') (hc : s.calls[call]? = some c) :
    (∃ use stage, ForwardCall.Moves s call c.units a c.stage use stage ∧
      s'.calls[call]? = some { c with stage } ∧ s.collector.use? use = some s'.collector) ∨
    s'.calls[call]? = some c ∧ ∀ e ∈ s.encounter? call a, ∃ ca, a = .collector ca := by
  cases h with
  | begin ha hcalls _ =>
      subst ha
      exact .inr ⟨hcalls ▸ getElem?_append_of_eq_some hc, by simp [encounter?]⟩
  | collector ha hcalls _ => exact .inr ⟨hcalls ▸ hc, fun _ _ => ⟨_, ha⟩⟩
  | @call k ck use stage hck hm hcalls hcol =>
      by_cases hk : k = call
      · subst hk
        obtain rfl := Option.some.inj (hc.symm.trans hck)
        refine .inl ⟨use, stage, hm, ?_, hcol⟩
        rw [hcalls, List.getElem?_set_self (List.getElem?_eq_some_iff.mp hc).1]
      · refine .inr ⟨?_, ?_⟩
        · rw [hcalls, List.getElem?_set_ne hk, hc]
        · intro e he
          exfalso
          generalize ck.stage = before at hm
          cases hm <;> simp [encounter?, hk] at he

/-- A call that does not listen meets nothing in the collector. -/
theorem encounter?_eq_none (hc : s.calls[call]? = some c) (hl : c.stage.listens? = none)
    (h : ∀ e ∈ s.encounter? call a, ∃ ca, a = .collector ca) : s.encounter? call a = none := by
  cases he : s.encounter? call a with
  | none => rfl
  | some e =>
      exfalso
      obtain ⟨ca, rfl⟩ := h e he
      rw [encounter?_collector hc, hl] at he
      split at he
      · next hg =>
          obtain ⟨_, _, _, _, _, _, hst, -⟩ := ForwardStage.givesUp_iff.mp hg
          rw [hst] at hl
          cases hl
      · cases he

/-- What a call meets in the collector is not the answer of a channel. -/
theorem channelAnswers_collector (h : ∀ e ∈ s.encounter? call a, ∃ ca, a = .collector ca) :
    channelAnswers (s.encounter? call a).toList = [] := by
  cases he : s.encounter? call a with
  | none => rfl
  | some e =>
      obtain ⟨ca, rfl⟩ := h e he
      obtain ⟨stage, -, he⟩ := Option.bind_eq_some_iff.mp he
      split at he
      · cases he
        rfl
      · obtain ⟨id, -, he⟩ := Option.bind_eq_some_iff.mp he
        obtain ⟨frame, -, rfl⟩ := Option.map_eq_some_iff.mp he
        rfl

/-- A call has its result. -/
def IsEnding (s : ForwardEngine) (call : Nat) (r : Except ExecutionError Response) : Prop :=
  ∃ c, s.calls[call]? = some c ∧ c.stage.IsEnding s.collector r

/-- A call that has its result keeps it, unless it is given up, and meets nothing more. -/
theorem IsEnding.move (h : s.IsEnding call r) (hm : s.Moves a s') :
    (s'.IsEnding call r ∨ a = .drop call ∧ s'.GaveUp call) ∧ s.encounter? call a = none := by
  obtain ⟨c, hc, hst⟩ := h
  rcases hm.call_cases hc with ⟨use, stage, hown, hc', hcol⟩ | ⟨hc', hmeets⟩
  · generalize hbefore : c.stage = before at hst hown
    cases hown with
    | @leaves id _ _ =>
        cases hst with
        | leaving =>
            have hspawn : s.collector.spawn (.unregister id .removing) = s'.collector :=
              Option.some.inj hcol
            have ht : s'.collector.tasks[s.collector.tasks.length]? =
                some (.unregister id .removing) := by
              rw [← hspawn]
              exact List.getElem?_concat_length
            exact ⟨.inl ⟨_, hc', .removing ht⟩, rfl⟩
    | concluded _ =>
        cases hst with
        | removing _ => exact ⟨.inl ⟨_, hc', .ended⟩, rfl⟩
    | dropped _ | droppedEarly => exact ⟨.inr ⟨rfl, _, hc', .inl rfl⟩, rfl⟩
    | _ => cases hst
  · refine ⟨.inl ⟨c, hc', ?_⟩, encounter?_eq_none hc ?_ hmeets⟩
    · generalize c.stage = stage at hst
      cases hst with
      | leaving => exact .leaving
      | removing ht =>
          obtain ⟨stage', ht'⟩ := hm.unregister_kept ht
          exact .removing ht'
      | ended => exact .ended
    · generalize c.stage = stage at hst
      cases hst <;> rfl

/-- A call that has its result can be brought to its end. -/
theorem IsEnding.canEnd (h : s.IsEnding call r) :
    ∃ more s', s.run more = some s' ∧ (∀ a ∈ more, a.IsStepOf call) ∧
      s'.stage? call = some (.ended (.result r)) := by
  have hend : s.EndsAs call (.result r) := by
    obtain ⟨⟨units, stage⟩, hc, hst⟩ := h
    cases hst with
    | leaving => exact endsAs_leaving hc
    | removing ht => exact endsAs_removing hc ht
    | ended => exact endsAs_ended hc
  obtain ⟨more, s', hrun, hmore, -, hs'⟩ := hend
  exact ⟨more, s', hrun, hmore, hs'⟩

end ForwardEngine

/-! ### What becomes of a call -/

/-- The units that a call has not got rid of yet. -/
def ForwardStage.unsent : ForwardStage → List PhysicalUnit
  | .sending _ _ rest _ => rest
  | _ => []

/-- How a call stands behind a run, and what it has met. -/
inductive Faring (settings : ForwardSettings) (route : Route) (keys : Bool) (call : Nat)
    (actions : List ForwardAction) (es : List Encounter) (s : ForwardEngine) : Prop where
  | gaveUp (h : s.GaveUp call)
  /-- There is nothing to do. -/
  | idle (hroute : route.units = []) (hes : es = [])
    (hc : s.calls[call]? = some ⟨route.dispatchUnits keys, .ended (.result (.ok .empty))⟩)
  /-- All channels have come so far. -/
  | acquiring {a} (hne : route.units ≠ []) (hof : a.Of (route.groups keys))
    (hes : es = List.replicate a.held.length (.channel none))
    (hc : s.calls[call]? = some ⟨route.dispatchUnits keys, .acquiring a⟩)
  | registering {id held} (hne : route.units ≠ [])
    (hes : es = List.replicate (route.groups keys).length (.channel none))
    (hc : s.calls[call]? = some ⟨route.dispatchUnits keys, .registering id held⟩)
  /-- Some channel has failed. -/
  | failed {e} (hes : (channelAnswers es).getLast? = some (some e))
    (hend : s.IsEnding call (.error e))
  /-- The id is registered, and no channel has failed. -/
  | registered {id before after s₀ s₁ c} (hne : route.units ≠ [])
    (hactions : actions = before ++ .register call :: after)
    (h : ForwardRun settings route keys call id before after s₀ s₁ s)
    (hin : InStep (ForwardRun.number s₀) (route.dispatchUnits keys).length call es
      (s₁.arrivals id (ForwardRun.number s₀) after) s)
    (hall : ∀ answer ∈ channelAnswers es, answer = none) (hc : s.calls[call]? = some c)
    (hcount : (channelAnswers es).length + c.stage.unsent.length =
      (route.groups keys).length + (route.dispatchUnits keys).length)

/-- A run in which a call registers its id goes on, while no channel of the call fails. -/
theorem ForwardRun.concat {settings : ForwardSettings} {route : Route} {keys : Bool} {call : Nat}
    {id : CorrelationId} {before after : List ForwardAction} {s₀ s₁ s s' : ForwardEngine}
    {a : ForwardAction} (h : ForwardRun settings route keys call id before after s₀ s₁ s)
    (hstep : s.step a = some s') (hsent : ∀ e, a ≠ .sent call (some e))
    (hclaims : ∀ ca, a = .collector ca → ca.claims? ≠ some id)
    (hids : ((before ++ (after ++ [a])).filterMap ForwardAction.takes?).length ≤ UInt64.size) :
    ForwardRun settings route keys call id before (after ++ [a]) s₀ s₁ s' where
  before_run := h.before_run
  registering := h.registering
  registers := h.registers
  after_run := foldlM_concat_eq_some.mpr ⟨s, h.after_run, hstep⟩
  sends e he := by
    rcases List.mem_append.mp he with he | he
    · exact h.sends e he
    · exact hsent e (List.mem_singleton.mp he).symm
  own_id ca hca := by
    rw [← List.append_assoc] at hca
    rcases List.mem_append.mp hca with hca | hca
    · exact h.own_id ca hca
    · exact hclaims ca (List.mem_singleton.mp hca).symm
  enough_ids := hids

namespace Faring

variable {settings : ForwardSettings} {route : Route} {keys : Bool} {call : Nat}
  {actions : List ForwardAction} {es : List Encounter} {s s' : ForwardEngine} {a : ForwardAction}

/-- A call that has nothing to do has ended. -/
theorem move_idle (hroute : route.units = [])
    (hc : s.calls[call]? = some ⟨route.dispatchUnits keys, .ended (.result (.ok .empty))⟩)
    (hm : s.Moves a s') :
    Faring settings route keys call (actions ++ [a]) (s.encounter? call a).toList s' := by
  rcases hm.call_cases hc with ⟨use, stage, hown, hc', -⟩ | ⟨hc', hmeets⟩
  · cases hown with
    | droppedEarly => exact .gaveUp ⟨_, hc', .inl rfl⟩
    | dropped h => cases h
  · rw [ForwardEngine.encounter?_eq_none hc rfl hmeets]
    exact .idle hroute rfl hc'

/-- A call that acquires gets one channel after the other, until one is refused. -/
theorem move_acquiring {acq : Acquisition} (hne : route.units ≠ [])
    (hof : acq.Of (route.groups keys))
    (hc : s.calls[call]? = some ⟨route.dispatchUnits keys, .acquiring acq⟩) (hm : s.Moves a s') :
    Faring settings route keys call (actions ++ [a])
      (List.replicate acq.held.length (.channel none) ++ (s.encounter? call a).toList) s' := by
  rcases hm.call_cases hc with ⟨use, stage, hown, hc', -⟩ | ⟨hc', hmeets⟩
  · cases hown with
    | asked ha =>
        refine .acquiring hne (hof.ask ha) ?_ hc'
        obtain ⟨-, -, rfl⟩ := Acquisition.ask?_eq_some.mp ha
        exact List.append_nil _
    | granted ha =>
        refine .acquiring hne (hof.grant ha) ?_ hc'
        obtain ⟨-, g, rest, -, -, rfl⟩ := Acquisition.grant?_eq_some.mp ha
        simp [ForwardEngine.encounter?, List.replicate_succ']
    | refused =>
        exact .failed (by simp [ForwardEngine.encounter?, channelAnswers, Encounter.channel?])
          ⟨_, hc', .ended⟩
    | tookId hcomplete =>
        refine .registering hne ?_ hc'
        rw [hof.held_eq hcomplete]
        exact List.append_nil _
    | droppedEarly => exact .gaveUp ⟨_, hc', .inl rfl⟩
    | dropped h => cases h
  · rw [ForwardEngine.encounter?_eq_none hc rfl hmeets]
    exact .acquiring hne hof (List.append_nil _) hc'

/-- A call that has all its channels registers its id: nobody else has it. -/
theorem move_registering {id : CorrelationId} {held : List UnitGroup} (hne : route.units ≠ [])
    (hc : s.calls[call]? = some ⟨route.dispatchUnits keys, .registering id held⟩)
    (hrun : (ForwardEngine.new settings).run actions = some s) (hstep : s.step a = some s')
    (hclaims : ∀ ca, .collector ca ∈ actions → ca.claims? = none)
    (hids : (actions.filterMap ForwardAction.takes?).length ≤ UInt64.size) :
    Faring settings route keys call (actions ++ [a])
      (List.replicate (route.groups keys).length (.channel none) ++
        (s.encounter? call a).toList) s' := by
  have hm := (ForwardEngine.moves_of_step hstep).1
  rcases hm.call_cases hc with ⟨use, stage, hown, hc', -⟩ | ⟨hc', hmeets⟩
  · cases hown with
    | registered hf =>
        have h : ForwardRun settings route keys call id actions [] s s' s' :=
          ⟨hrun, ⟨held, hc⟩, hstep, rfl, by simp, by
            intro ca hca
            rw [hclaims ca (by simpa using hca)]
            exact nofun, by simpa using hids⟩
        have hnone : s.encounter? call (.register call) = none := rfl
        rw [hnone, Option.toList_none, List.append_nil]
        refine .registered hne rfl h ⟨?_, ?_, ?_⟩ ?_ hc' ?_
        · rw [repliesInTime_replicate]
          rfl
        · intro w c hw hclosed hcw _
          rcases h.onCourse_nil with ⟨c', hc'', hgone⟩ | ⟨stage, w', hc'', hst, hs⟩
          · obtain rfl := Option.some.inj (hc'.symm.trans hc'')
            rcases hgone with hgone | ⟨_, _, _, _, _, _, hgone, -⟩ <;> cases hgone
          · obtain rfl := Option.some.inj (hst.wait.symm.trans hw)
            cases Option.some.inj (hc'.symm.trans hc'')
            cases hs with
            | sending _ _ hin _ => simp [InTime, hclosed] at hin
        · intro w hd _
          simp at hd
        · intro answer ha
          rw [channelAnswers_replicate] at ha
          exact (List.mem_replicate.mp ha).2
        · rw [channelAnswers_replicate, List.length_replicate]
          rfl
    | @occupied _ _ n e hf =>
        exfalso
        have hforeign : id ∉ actions.filterMap ForwardAction.foreign? := by
          intro hin
          obtain ⟨b, hb, hid⟩ := List.mem_filterMap.mp hin
          cases b with
          | collector ca => simp [ForwardAction.foreign?, hclaims ca hb] at hid
          | _ => cases hid
        obtain ⟨⟨owners, events, hO, hown⟩, -⟩ :=
          (tickets_of_run hrun).unused hids hc rfl hforeign
        exact hown id (List.mem_of_getElem? (hO.entry hf)) rfl
    | droppedEarly => exact .gaveUp ⟨_, hc', .inl rfl⟩
    | dropped h => exact .gaveUp ⟨_, hc', .inl rfl⟩
  · rw [ForwardEngine.encounter?_eq_none hc rfl hmeets]
    exact .registering hne (List.append_nil _) hc'

/-- While a call sends its units its channels answer for them, one after another. -/
theorem count_registered {id : CorrelationId} {number : Nat} {units : List PhysicalUnit}
    {arrived : List ReplyFrame} {w : Wait ReplyFrame} {stage stage' : ForwardStage}
    (hm : s.Moves a s') (hc : s.calls[call]? = some ⟨units, stage⟩)
    (hs : ForwardCourse id settings.timeout number units arrived s.collector w stage)
    (hc' : s'.calls[call]? = some ⟨units, stage'⟩) (hgone : stage'.isGivenUp = false)
    (hsent : ∀ e, a ≠ .sent call (some e)) :
    (∀ answer ∈ channelAnswers (s.encounter? call a).toList, answer = none) ∧
      (channelAnswers (s.encounter? call a).toList).length + stage'.unsent.length =
        stage.unsent.length := by
  have hquiet : ∀ answer ∈ channelAnswers [], answer = none := by simp [channelAnswers]
  rcases hm.call_cases hc with ⟨use, after, hown, hc'', -⟩ | ⟨hc'', hmeets⟩
  · cases Option.some.inj (hc''.symm.trans hc')
    cases hown with
    | asked _ | granted _ | refused | tookId _ | registered _ | occupied _ | abandoned _ => cases hs
    | sendFailed => exact absurd rfl (hsent _)
    | sent =>
        simp only [ForwardEngine.encounter?, if_pos, Option.toList_some, ForwardStage.unsent]
        refine ⟨by simp [channelAnswers, Encounter.channel?], ?_⟩
        simp [channelAnswers, Encounter.channel?, Nat.add_comm]
    | sends | gaveBack | awaits | settled _ | leaves | concluded _ =>
        exact ⟨hquiet, Nat.zero_add _⟩
    | dropped _ | droppedEarly | cancels => cases hgone
  · cases Option.some.inj (hc''.symm.trans hc')
    rw [ForwardEngine.channelAnswers_collector hmeets]
    exact ⟨hquiet, Nat.zero_add _⟩

/-- A call that has registered its id goes on its course, until a channel fails. -/
theorem move_registered {id : CorrelationId} {before after : List ForwardAction}
    {s₀ s₁ : ForwardEngine} {c : ForwardCall} (hne : route.units ≠ [])
    (h : ForwardRun settings route keys call id before after s₀ s₁ s)
    (hin : InStep (ForwardRun.number s₀) (route.dispatchUnits keys).length call es
      (s₁.arrivals id (ForwardRun.number s₀) after) s)
    (hall : ∀ answer ∈ channelAnswers es, answer = none) (hc : s.calls[call]? = some c)
    (hcount : (channelAnswers es).length + c.stage.unsent.length =
      (route.groups keys).length + (route.dispatchUnits keys).length)
    (hstep : s.step a = some s') (hclaims : ∀ ca, a = .collector ca → ca.claims? = none)
    (hids : ((before ++ (after ++ [a])).filterMap ForwardAction.takes?).length ≤ UInt64.size) :
    Faring settings route keys call ((before ++ .register call :: after) ++ [a])
      (es ++ (s.encounter? call a).toList) s' := by
  obtain ⟨hm, hset⟩ := ForwardEngine.moves_of_step hstep
  rcases h.onCourse with hgone | ⟨stage, w, hc₀, hst, hs⟩
  · exact .gaveUp (hgone.move hm)
  obtain rfl := Option.some.inj (hc₀.symm.trans hc)
  by_cases hsent : ∃ e, a = .sent call (some e)
  · obtain ⟨e, rfl⟩ := hsent
    refine .failed (e := e) (by simp [ForwardEngine.encounter?, channelAnswers,
      Encounter.channel?]) ?_
    rcases hm.call_cases hc with ⟨use, stage', hown, hc', -⟩ | ⟨-, hmeets⟩
    · cases hown with
      | sendFailed => exact ⟨_, hc', .leaving⟩
    · obtain ⟨ca, hca⟩ := hmeets (.channel (some e)) (by simp [ForwardEngine.encounter?])
      cases hca
  · have hsent' : ∀ e, a ≠ .sent call (some e) := fun e heq => hsent ⟨e, heq⟩
    have h' := h.concat hstep hsent' (fun ca heq => by simp [hclaims ca heq]) hids
    rcases h'.onCourse with hgone | ⟨stage', w', hc', hst', hs'⟩
    · exact .gaveUp hgone
    have hnot : stage'.isGivenUp = false := by cases hs' <;> rfl
    obtain ⟨hall', hcount'⟩ := count_registered hm hc hs hc' hnot hsent'
    have hin' := hin.move hstep hc hst hs hc' hst' (hset ▸ hs')
    rw [ForwardEngine.arrivals, ← emitted_concat h.after_run] at hin'
    refine .registered hne (by simp) h' hin' ?_ hc' ?_
    · intro answer ha
      rw [channelAnswers_append] at ha
      exact (List.mem_append.mp ha).elim (hall answer) (hall' answer)
    · rw [channelAnswers_append, List.length_append]
      dsimp only at hcount hcount' ⊢
      omega

/-- **How a call fares follows from what it meets**, whoever moves. -/
theorem move (h : Faring settings route keys call actions es s)
    (hrun : (ForwardEngine.new settings).run actions = some s) (hstep : s.step a = some s')
    (hclaims : ∀ ca, .collector ca ∈ actions ++ [a] → ca.claims? = none)
    (hids : ((actions ++ [a]).filterMap ForwardAction.takes?).length ≤ UInt64.size) :
    Faring settings route keys call (actions ++ [a]) (es ++ (s.encounter? call a).toList) s' := by
  have hm := (ForwardEngine.moves_of_step hstep).1
  have hlen : (actions.filterMap ForwardAction.takes?).length ≤ UInt64.size := by
    rw [List.filterMap_append, List.length_append] at hids
    omega
  cases h with
  | gaveUp h => exact .gaveUp (h.move hm)
  | idle hroute hes hc =>
      subst hes
      exact move_idle hroute hc hm
  | acquiring hne hof hes hc =>
      subst hes
      exact move_acquiring hne hof hc hm
  | registering hne hes hc =>
      subst hes
      exact move_registering hne hc hrun hstep
        (fun ca hca => hclaims ca (List.mem_append_left _ hca)) hlen
  | failed hes hend =>
      obtain ⟨hend' | ⟨-, hgone⟩, hnone⟩ := hend.move hm
      · rw [hnone, Option.toList_none, List.append_nil]
        exact .failed hes hend'
      · exact .gaveUp hgone
  | registered hne hactions h hin hall hc hcount =>
      subst hactions
      refine move_registered hne h hin hall hc hcount hstep
        (fun ca heq => hclaims ca (by simp [heq])) ?_
      rwa [List.append_assoc, List.filterMap_append, List.cons_append, List.filterMap_cons_none rfl,
        ← List.filterMap_append] at hids

end Faring

/-! ### A call among others -/

/-- A run in which a call begins among others: only calls register ids, wait for them or remove
them, replies are offered in any way, and there are enough ids for all calls. -/
structure Forwarding (settings : ForwardSettings) (route : Route) (keys : Bool) (call : Nat)
    (before after : List ForwardAction) (s₀ s : ForwardEngine) : Prop where
  before_run : (ForwardEngine.new settings).run before = some s₀
  number : call = s₀.calls.length
  after_run : s₀.run (.begin route keys :: after) = some s
  calls_only : ∀ ca, .collector ca ∈ before ++ after → ca.claims? = none
  enough_ids : ((before ++ after).filterMap ForwardAction.takes?).length ≤ UInt64.size

namespace Forwarding

variable {settings : ForwardSettings} {route : Route} {keys : Bool} {call : Nat}
  {before after : List ForwardAction} {s₀ s : ForwardEngine}

/-- How the call fares behind such a run, with what it has met. -/
theorem faring (h : Forwarding settings route keys call before after s₀ s) :
    Faring settings route keys call (before ++ .begin route keys :: after)
      (s₀.encounters call (.begin route keys :: after)) s := by
  obtain ⟨s₁, hbegin, hrun⟩ := foldlM_cons_eq_some.mp h.after_run
  have hfirst : s₁.calls[call]? = some (ForwardEngine.firstCall route keys) := by
    cases hbegin
    rw [h.number]
    exact List.getElem?_concat_length
  have hencounters : ∀ as, s₀.encounters call (.begin route keys :: as) =
      s₁.encounters call as := by
    intro as
    rw [ForwardEngine.encounters, emitted, hbegin]
    rfl
  rw [hencounters]
  refine foldlM_induction (P := fun as s => as <+: after → Faring settings route keys call
    (before ++ .begin route keys :: as) (s₁.encounters call as) s) ?_ ?_ hrun
    (List.prefix_refl after)
  · intro _
    unfold ForwardEngine.firstCall at hfirst
    split at hfirst
    · next hempty => exact .idle (List.isEmpty_iff.mp hempty) rfl hfirst
    · next hempty =>
        exact .acquiring (by simpa using hempty) (Acquisition.of_ofGroups _) rfl hfirst
  · intro as u a u' hrun' hP hstep hpre
    have hall : (ForwardEngine.new settings).run (before ++ .begin route keys :: as) = some u :=
      foldlM_append_eq_some.mpr ⟨s₀, h.before_run, foldlM_cons_eq_some.mpr ⟨s₁, hbegin, hrun'⟩⟩
    obtain ⟨rest, rfl⟩ := hpre
    have hclaims : ∀ ca, .collector ca ∈ (before ++ .begin route keys :: as) ++ [a] →
        ca.claims? = none := by
      intro ca hca
      refine h.calls_only ca ?_
      simp only [List.mem_append, List.mem_cons, reduceCtorEq, false_or] at hca ⊢
      tauto
    have hids : (((before ++ .begin route keys :: as) ++ [a]).filterMap
        ForwardAction.takes?).length ≤ UInt64.size := by
      have := h.enough_ids
      simp only [List.filterMap_append, List.length_append,
        List.filterMap_cons_none (show ForwardAction.takes? (.begin route keys) = none from rfl)]
        at this ⊢
      omega
    rw [ForwardEngine.encounters, emitted_concat hrun']
    have hmove := (hP ⟨a :: rest, by simp⟩).move hall hstep hclaims hids
    rwa [List.append_assoc] at hmove

end Forwarding

end ScatterGather
