import ScatterGather.Proofs.Forward.Encounters
import ScatterGather.Proofs.Forward.Script

/-!
# Replies can be accepted before anything is sent

A call registers its wait before it sends its first unit, so a reply can never come too early.
What becomes of the replies that are offered under an id is listed in the order in which it is
decided (`ForwardEngine.decisions`). While the wait of a call collects, the lookup of an offer finds
it and its append is accepted (`Standing.accepts`); it collects until it has as many replies as
there are units, unless the deadline of the call closes it (`ForwardRun.accepts`). The main
statement, `forward_sends_before_replies`, puts this behind the order in which a call acquires,
registers, sends and waits.
-/

namespace ScatterGather

/-! ### What becomes of an offer -/

section

variable {α : Type}

/-- The reply that is accepted or refused under an id, and whether it is accepted. -/
def ReplyEvent.decision? (id : CorrelationId) : ReplyEvent α → Option (α × Bool)
  | accepted _ id' _ item => if id' = id then some (item, true) else none
  | refused _ id' item => if id' = id then some (item, false) else none
  | _ => none

/-- The reply of a decision. -/
theorem ReplyEvent.map_decision? (id : CorrelationId) (event : ReplyEvent α) :
    (event.decision? id).map Prod.fst = event.decides? id := by
  cases event with
  | accepted _ id' _ _ | refused _ id' _ =>
      by_cases hid : id' = id <;> simp [decision?, decides?, hid]
  | _ => rfl

/-- A reply is refused where its id has no entry, or where the wait that was found does not
collect. -/
theorem Collector.refused_cases {c : Collector α} {a : CollectorAction α} {task : Nat}
    {id : CorrelationId} {item : α} (h : c.event? a = some (.refused task id item)) :
    c.registry.find? id = none ∨ ∃ number w,
      c.tasks[task]? = some (.offer id (.appending number item)) ∧
      c.registry.wait? number = some w ∧ w.status ≠ .collecting := by
  cases a with
  | advance task' =>
      obtain ⟨t, ht, he⟩ := Option.bind_eq_some_iff.mp h
      unfold taskEvent? at he
      split at he
      · split at he
        · cases he
        · next hf =>
            cases he
            exact .inl hf
      · obtain ⟨w, hw, he⟩ := Option.bind_eq_some_iff.mp he
        split at he
        · cases he
        · next hc =>
            cases he
            exact .inr ⟨_, w, ht, hw, hc⟩
      · obtain ⟨w, -, he⟩ := Option.bind_eq_some_iff.mp he
        obtain ⟨items, -, he⟩ := Option.bind_eq_some_iff.mp he
        cases he
      · obtain ⟨w, -, he⟩ := Option.bind_eq_some_iff.mp he
        obtain ⟨items, -, he⟩ := Option.bind_eq_some_iff.mp he
        cases he
      · cases he
  | _ => cases h

/-- **A wait that collects accepts** whatever is offered under its id. -/
theorem Standing.accepts {id : CorrelationId} {number size : Nat} {arrived : List α}
    {c : Collector α} {w : Wait α} {a : CollectorAction α} {d : α × Bool}
    (h : Standing id number size arrived c w) (hw : w.status = .collecting)
    (hd : (c.event? a).bind (ReplyEvent.decision? id) = some d) : d.2 = true := by
  obtain ⟨event, he, hd⟩ := Option.bind_eq_some_iff.mp hd
  cases event with
  | accepted task id' n item =>
      obtain ⟨-, hd⟩ := Option.ite_none_right_eq_some.mp hd
      exact (congrArg Prod.snd (Option.some.inj hd)).symm
  | refused task id' item =>
      exfalso
      obtain ⟨rfl, -⟩ := Option.ite_none_right_eq_some.mp hd
      rcases Collector.refused_cases he with hf | ⟨n, v, ht, hv, hne⟩
      · rw [h.entry hw] at hf
        cases hf
      · obtain rfl : n = number := (h.belongs.number_iff ht rfl).mpr rfl
        obtain rfl := Option.some.inj (h.wait.symm.trans hv)
        exact hne hw
  | _ => cases hd

end

/-! ### The replies of a call -/

namespace ForwardEngine

/-- The reply that is accepted or refused under an id by an action, and whether it is accepted. -/
def decision? (id : CorrelationId) (s : ForwardEngine) : ForwardAction → Option (ReplyFrame × Bool)
  | .collector a => (s.collector.event? a).bind (ReplyEvent.decision? id)
  | _ => none

/-- What becomes of the replies that are offered under an id along a run, in order. -/
def decisions (id : CorrelationId) (s : ForwardEngine) (actions : List ForwardAction) :
    List (ReplyFrame × Bool) :=
  emitted step (decision? id) s actions

variable {s s' : ForwardEngine} {a : ForwardAction} {call number : Nat}
  {units : List PhysicalUnit} {id : CorrelationId} {timeout : Duration}
  {arrived : List ReplyFrame} {stage stage' : ForwardStage} {w w' : Wait ReplyFrame}

/-- While a wait has not been closed, what is decided under its id arrives at it. -/
theorem arrival?_eq_decision? (hst : Standing id number units.length arrived s.collector w)
    (hw : w.status ≠ .closed) :
    s.arrival? id number a = (s.decision? id a).map Prod.fst := by
  cases a with
  | collector ca =>
      change s.collector.arrival? id number ca = _
      rw [hst.arrival?_of_not_closed hw, decision?, Option.map_bind]
      congr 1
      funext event
      exact (event.map_decision? id).symm
  | _ => rfl

/-- **Only its deadline closes the wait of a call** that is on its course. -/
theorem Moves.not_closed (hm : s.Moves a s') (hc : s.calls[call]? = some ⟨units, stage⟩)
    (hst : Standing id number units.length arrived s.collector w)
    (hs : ForwardCourse id timeout number units arrived s.collector w stage)
    (hw' : s'.collector.registry.wait? number = some w') (hne : w.status ≠ .closed)
    (hd : s.encounter? call a ≠ some .deadline) : w'.status ≠ .closed := by
  intro hcl
  have hdelivered : ¬(w.status = .delivered ∨ w.status = .closed) := by
    rintro (hw | hw)
    · simp [hm.stays_delivered hst.wait hw' hw] at hcl
    · exact hne hw
  have hc' : s'.calls[call]? = some ⟨units, stage⟩ := by
    obtain ⟨task, t, ha, -⟩ := hm.closes?_of_closed hst.wait hw' hne hcl
    rcases hm.call_cases hc with ⟨use, stage', hown, -⟩ | ⟨hc', -⟩
    · rw [ha] at hown
      cases hown
    · exact hc'
  refine hd (hm.deadline_of_closed hc hc' hst hs hw' hne hcl ?_)
  cases hs with
  | sending _ _ _ _ | sent _ _ _ | waiting _ _ _ => exact nofun
  | leaving hw _ | removing _ hw _ | ended hw _ => exact absurd hw hdelivered

end ForwardEngine

namespace ForwardRun

variable {settings : ForwardSettings} {route : Route} {keys : Bool} {call : Nat}
  {id : CorrelationId} {before after : List ForwardAction} {s₀ s₁ s : ForwardEngine}

/-- A run in which a call registers its id stops in between. -/
theorem take (h : ForwardRun settings route keys call id before after s₀ s₁ s)
    {as bs : List ForwardAction} {u : ForwardEngine} (hafter : after = as ++ bs)
    (hrun : s₁.run as = some u) : ForwardRun settings route keys call id before as s₀ s₁ u where
  before_run := h.before_run
  registering := h.registering
  registers := h.registers
  after_run := hrun
  sends e he := h.sends e (hafter ▸ List.mem_append_left _ he)
  own_id a ha := h.own_id a (by
    rw [hafter, ← List.append_assoc]
    exact List.mem_append_left _ ha)
  enough_ids := by
    have := h.enough_ids
    rw [hafter, ← List.append_assoc, List.filterMap_append, List.length_append] at this
    omega

/-- How the replies of a call have fared that has not been given up, before its deadline: its wait
has not been closed, what was decided has arrived at it, and the first of it was accepted. -/
structure Accepting (id : CorrelationId) (number size : Nat) (s₁ : ForwardEngine)
    (as : List ForwardAction) (s : ForwardEngine) : Prop where
  not_closed : ∀ w, s.collector.registry.wait? number = some w → w.status ≠ .closed
  arrived : (s₁.decisions id as).map Prod.fst = s₁.arrivals id number as
  accepted : ∀ d ∈ (s₁.decisions id as).take size, d.2 = true

/-- A call that has just registered its id accepts. -/
theorem accepting_nil (h : ForwardRun settings route keys call id before after s₀ s₁ s)
    (hgone : ¬s₁.GaveUp call) : Accepting id (number s₀) route.size s₁ [] s₁ := by
  refine ⟨fun w hw => ?_, rfl, by simp [ForwardEngine.decisions, emitted]⟩
  rcases h.onCourse_nil with hgone' | ⟨stage, w', hc', hst, hs⟩
  · exact absurd hgone' hgone
  obtain rfl := Option.some.inj (hst.wait.symm.trans hw)
  obtain ⟨held, hc⟩ := h.registering
  rcases (ForwardEngine.moves_of_step h.registers).1.call_cases hc with
    ⟨use, stage', hown, hc'', hcol⟩ | ⟨hc'', -⟩
  · cases hown with
    | registered _ =>
        cases Option.some.inj (hc'.symm.trans hc'')
        cases hs with
        | sending _ _ hin _ => rcases hin.1 with hw | hw <;> simp [hw]
    | occupied _ =>
        -- Without a registration there is no wait of this number.
        have hcol' : s₀.collector = s₁.collector := Option.some.inj hcol
        have hnone : s₁.collector.registry.wait? (number s₀) = none := by
          rw [← hcol']
          exact Registry.wait?_eq_none_iff.mpr (Nat.le_refl _)
        rw [hnone] at hw
        cases hw
  · cases Option.some.inj (hc'.symm.trans hc'')
    cases hs

/-- **Every step of an engine keeps a call accepting**, unless the call is given up or its deadline
passes. -/
theorem Accepting.concat {number : Nat} {units : List PhysicalUnit} {timeout : Duration}
    {u u' : ForwardEngine} {as : List ForwardAction} {a : ForwardAction}
    {stage : ForwardStage} {w w' : Wait ReplyFrame}
    (h : Accepting id number units.length s₁ as u) (hrun : s₁.run as = some u)
    (hstep : u.step a = some u') (hc : u.calls[call]? = some ⟨units, stage⟩)
    (hst : Standing id number units.length (s₁.arrivals id number as) u.collector w)
    (hs : ForwardCourse id timeout number units (s₁.arrivals id number as) u.collector w stage)
    (hw' : u'.collector.registry.wait? number = some w')
    (hd : u.encounter? call a ≠ some .deadline) :
    Accepting id number units.length s₁ (as ++ [a]) u' := by
  have hopen : w.status ≠ .closed := h.not_closed w hst.wait
  have hdecisions : s₁.decisions id (as ++ [a]) =
      s₁.decisions id as ++ (u.decision? id a).toList := emitted_concat hrun a
  refine ⟨fun v hv => ?_, ?_, ?_⟩
  · obtain rfl := Option.some.inj (hw'.symm.trans hv)
    exact (ForwardEngine.moves_of_step hstep).1.not_closed hc hst hs hw' hopen hd
  · rw [hdecisions, ForwardEngine.arrivals, emitted_concat hrun, ← ForwardEngine.arrivals,
      List.map_append, h.arrived, ForwardEngine.arrival?_eq_decision? hst hopen]
    cases u.decision? id a <;> rfl
  · intro d hmem
    rw [hdecisions] at hmem
    by_cases hle : units.length ≤ (s₁.decisions id as).length
    · rw [List.take_append_of_le_length hle] at hmem
      exact h.accepted d hmem
    · have hlt : (s₁.arrivals id number as).length < units.length := by
        rw [← h.arrived, List.length_map]
        omega
      have hcollects : w.status = .collecting := by
        by_contra hne
        have := hst.size_le (by cases hw : w.status <;> simp_all [Wait.isComplete])
        omega
      rcases List.mem_append.mp (List.mem_of_mem_take hmem) with hold | hnew
      · refine h.accepted d ?_
        rwa [List.take_of_length_le (by omega)]
      · cases a with
        | collector ca => exact hst.accepts hcollects (Option.mem_toList.mp hnew)
        | _ => cases hnew

/-- **The first replies are accepted**, as many as there are units, however early they come. -/
theorem accepts (h : ForwardRun settings route keys call id before after s₀ s₁ s)
    (hgone : ¬s.GaveUp call) (hd : .deadline ∉ s₁.encounters call after) :
    ∀ d ∈ (s₁.decisions id after).take route.size, d.2 = true := by
  have hsize : (route.dispatchUnits keys).length = route.size := route.length_dispatchUnits keys
  refine (foldlM_induction (P := fun as u => as <+: after → ¬u.GaveUp call →
    .deadline ∉ s₁.encounters call as → Accepting id (number s₀) route.size s₁ as u)
    (fun _ hgone _ => h.accepting_nil hgone) ?_ h.after_run (List.prefix_refl after) hgone
    hd).accepted
  rintro as u a u' hrun hP hstep ⟨bs, hafter⟩ hgone' hd'
  have hm := (ForwardEngine.moves_of_step hstep).1
  have hgone : ¬u.GaveUp call := fun hgone => hgone' (hgone.move hm)
  rw [ForwardEngine.encounters, emitted_concat hrun, List.mem_append, not_or] at hd'
  have hsplit : after = as ++ a :: bs := by rw [← hafter, List.append_assoc]; rfl
  have hu := h.take hsplit hrun
  have hu' := h.take hafter.symm (foldlM_concat_eq_some.mpr ⟨u, hrun, hstep⟩)
  rcases hu.onCourse with h' | ⟨stage, w, hc, hst, hs⟩
  · exact absurd h' hgone
  rcases hu'.onCourse with h' | ⟨stage', w', -, hst', -⟩
  · exact absurd h' hgone'
  have hbefore := hP ((List.prefix_append as [a]).trans ⟨bs, hafter⟩) hgone hd'.1
  rw [← hsize] at hbefore ⊢
  exact hbefore.concat hrun hstep hc hst hs hst'.wait fun heq => hd'.2 (by simp [heq])

/-- Behind its first send, or anywhere else behind its registration, a call accepts the replies that
it still needs. -/
theorem accepts_behind (h : ForwardRun settings route keys call id before after s₀ s₁ s)
    (hgone : ¬s.GaveUp call) (hd : .deadline ∉ s₁.encounters call after)
    {as bs : List ForwardAction} {u : ForwardEngine} (hafter : after = as ++ bs)
    (hrun : s₁.run as = some u) :
    ∀ d ∈ (u.decisions id bs).take (route.size - (s₁.decisions id as).length), d.2 = true := by
  have hdecisions : s₁.decisions id after = s₁.decisions id as ++ u.decisions id bs := by
    rw [hafter]
    exact emitted_append hrun bs
  intro d hmem
  refine h.accepts hgone hd d ?_
  rw [hdecisions, List.take_append]
  exact List.mem_append_right _ hmem

end ForwardRun

/-! ### The whole statement -/

/-- What a call does to its surroundings: it sends each unit once, and only when it can be
answered. -/
structure SendsEachOnce (settings : ForwardSettings) (route : Route) (keys : Bool) (call : Nat)
    (s₀ : ForwardEngine) (after : List ForwardAction) : Prop where
  /-- It acquires a channel for each data source, registers its wait for as many replies as there
  are units, sends all units in dispatch order and waits, until it stops or fails. -/
  follows : Follows settings route keys (s₀.story call (.begin route keys :: after))
  /-- A send that fails is the end of it. -/
  stops : ∀ as e bs, after = as ++ .sent call (some e) :: bs →
    s₀.story call (.begin route keys :: after) =
      s₀.story call (.begin route keys :: as) ++ [.fails e]
  /-- Where it waits it has done all that the script says, and has sent every unit of the route
  once. -/
  reaches : ∀ id timeout, .awaits id timeout ∈ s₀.story call (.begin route keys :: after) →
    forwardScript settings route keys id <+: s₀.story call (.begin route keys :: after) ∧
    ((s₀.story call (.begin route keys :: after)).filterMap ForwardDeed.unit?).Perm
      (route.units.map fun u => (u.dataSource, u.sql))

/-- **A call sends each unit once, and only when it can be answered.** In every run over a route
with units, whatever is refused, fails, is offered or given up, the call follows its script. Hence a
reply cannot come too early: where no send fails, the call is not given up and its deadline has not
passed, the first replies that are decided under its id from the registration on are accepted, as
many as there are units; and so are those behind the first send, less those that came before it. -/
theorem forward_sends_before_replies {settings : ForwardSettings} {route : Route} {keys : Bool}
    {call : Nat} {before after : List ForwardAction} {s₀ s : ForwardEngine}
    (h : ForwardEngine.CallRun settings route keys call before after s₀ s)
    (hne : route.units ≠ []) :
    SendsEachOnce settings route keys call s₀ after ∧
    ∀ {id as bs u₀ u₁}, ForwardRun settings route keys call id as bs u₀ u₁ s → ¬s.GaveUp call →
      .deadline ∉ u₁.encounters call bs →
      (∀ d ∈ (u₁.decisions id bs).take route.size, d.2 = true) ∧
      ∀ cs ds u, bs = cs ++ .send call :: ds → u₁.run cs = some u →
        ∀ d ∈ (u.decisions id (.send call :: ds)).take
          (route.size - (u₁.decisions id cs).length), d.2 = true := by
  obtain ⟨stage, -, hon⟩ := h.onScript hne
  refine ⟨⟨hon.follows, fun as e bs hafter => h.story_of_sendFailed hne hafter,
    fun id timeout ha => hon.follows.reaches ha⟩, ?_⟩
  intro id as bs u₀ u₁ hrun hgone hd
  exact ⟨hrun.accepts hgone hd, fun cs ds u hbs hcs => hrun.accepts_behind hgone hd hbs hcs⟩

/-- Both units of a statement are answered while they are being sent. -/
def answeredWhileSending : List ForwardAction :=
  [.send 0, .collector (.offer 1 ⟨1, 0, .ok 4 0⟩), .collector (.advance 0),
    .collector (.advance 0), .sent 0 none, .send 0, .collector (.offer 1 ⟨1, 1, .ok 3 0⟩),
    .collector (.advance 1), .collector (.advance 1), .sent 0 none, .giveBack 0, .await 0]

/-- Replies that come while units are being sent are accepted. -/
theorem forward_sends_before_replies_twice : ∃ s₀ u₀ u₁ s,
    ForwardEngine.CallRun ⟨.ofSeconds 1, none, false⟩ twoSources false 0 []
      (takingAnId.tail ++ .register 0 :: answeredWhileSending) s₀ s ∧
    ForwardRun ⟨.ofSeconds 1, none, false⟩ twoSources false 0 1 takingAnId answeredWhileSending
      u₀ u₁ s ∧
    (u₁.decisions 1 answeredWhileSending).map Prod.fst = [⟨1, 0, .ok 4 0⟩, ⟨1, 1, .ok 3 0⟩] ∧
    (∀ d ∈ (u₁.decisions 1 answeredWhileSending).take 2, d.2 = true) ∧
    SendsEachOnce ⟨.ofSeconds 1, none, false⟩ twoSources false 0 s₀
      (takingAnId.tail ++ .register 0 :: answeredWhileSending) := by
  have h : ForwardEngine.CallRun ⟨.ofSeconds 1, none, false⟩ twoSources false 0 []
      (takingAnId.tail ++ .register 0 :: answeredWhileSending) _ _ := ⟨rfl, rfl, rfl⟩
  have hrun : ForwardRun ⟨.ofSeconds 1, none, false⟩ twoSources false 0 1 takingAnId
      answeredWhileSending _ _ _ :=
    ⟨rfl, ⟨_, rfl⟩, rfl, rfl, by simp [answeredWhileSending],
      by simp [takingAnId, answeredWhileSending, CollectorAction.claims?], by decide⟩
  obtain ⟨hsends, haccepts⟩ := forward_sends_before_replies h (by decide)
  refine ⟨_, _, _, _, h, hrun, rfl, (haccepts hrun ?_ ?_).1, hsends⟩
  · rintro ⟨c, hc, hgone | ⟨_, _, _, _, _, _, hst, ht, hs⟩⟩
    · cases hc
      cases hgone
    · cases hc
      cases hst
      cases ht
      cases hs
  · change Encounter.deadline ∉ [Encounter.reply ⟨1, 0, .ok 4 0⟩, .channel none,
      .reply ⟨1, 1, .ok 3 0⟩, .channel none]
    simp

end ScatterGather
