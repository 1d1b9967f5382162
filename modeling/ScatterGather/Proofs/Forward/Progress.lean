import ScatterGather.Proofs.Collector.Progress
import ScatterGather.Proofs.Forward.Course

/-!
# Forwarded statements come to an end

A call that has registered its id needs no reply to come to its end: from every stage on its course
its own steps, the channels that take its units, and its deadline bring it to a result
(`OnCourse.canEnd`), and no reply arrives meanwhile.
-/

namespace ScatterGather

/-- A step by which a call goes on: its own, one of a task in the collector, or a deadline. -/
inductive ForwardAction.IsStepOf (call : Nat) : ForwardAction → Prop where
  | send : IsStepOf call (.send call)
  | sent : IsStepOf call (.sent call none)
  | giveBack : IsStepOf call (.giveBack call)
  | await : IsStepOf call (.await call)
  | settle : IsStepOf call (.settle call)
  | leave : IsStepOf call (.leave call)
  | conclude : IsStepOf call (.conclude call)
  | advance {task} : IsStepOf call (.collector (.advance task))
  | expire {task} : IsStepOf call (.collector (.expire task))

namespace ForwardEngine

/-- A call can be brought to a result by steps by which it goes on, without a further reply. -/
def CanEnd (call : Nat) (s : ForwardEngine) : Prop :=
  ∃ more s' r, s.run more = some s' ∧ (∀ a ∈ more, a.IsStepOf call) ∧
    (∀ id number, s.arrivals id number more = []) ∧
    s'.stage? call = some (.ended (.result r))

/-- A call can be brought to a given end by such steps. -/
def EndsAs (call : Nat) (how : ForwardEnd) (s : ForwardEngine) : Prop :=
  ∃ more s', s.run more = some s' ∧ (∀ a ∈ more, a.IsStepOf call) ∧
    (∀ id number, s.arrivals id number more = []) ∧ s'.stage? call = some (.ended how)

variable {s s' : ForwardEngine} {call task : Nat} {c : ForwardCall} {how : ForwardEnd}

/-- The end that a call can be brought to is a result. -/
theorem canEnd_iff : s.CanEnd call ↔ ∃ r, s.EndsAs call (.result r) := by
  constructor
  · rintro ⟨more, s', r, h⟩
    exact ⟨r, more, s', h⟩
  · rintro ⟨r, more, s', h⟩
    exact ⟨more, s', r, h⟩

/-- A call that can take a step to where it can be brought to an end can be brought to it. -/
theorem EndsAs.step {a : ForwardAction} (hs : s.step a = some s') (ha : a.IsStepOf call)
    (hq : ∀ id number, s.arrival? id number a = none) (h : s'.EndsAs call how) :
    s.EndsAs call how := by
  obtain ⟨more, s'', hrun, hmore, hquiet, hend⟩ := h
  refine ⟨a :: more, s'', foldlM_cons_eq_some.mpr ⟨_, hs, hrun⟩,
    List.forall_mem_cons.mpr ⟨ha, hmore⟩, ?_, hend⟩
  intro id number
  have := hquiet id number
  simp_all [arrivals, emitted]

theorem CanEnd.step {a : ForwardAction} (hs : s.step a = some s') (ha : a.IsStepOf call)
    (hq : ∀ id number, s.arrival? id number a = none) (h : s'.CanEnd call) : s.CanEnd call := by
  obtain ⟨r, h⟩ := canEnd_iff.mp h
  exact canEnd_iff.mpr ⟨r, h.step hs ha hq⟩

/-- What happens in the collector happens in the engine. -/
theorem run_collector {more : List (CollectorAction ReplyFrame)} {c' : Collector ReplyFrame}
    (h : s.collector.run more = some c') :
    s.run (more.map .collector) = some { s with collector := c' } ∧
      ∀ id number, s.arrivals id number (more.map .collector) =
        emitted Collector.step (Collector.arrival? id number) s.collector more := by
  induction more generalizing s with
  | nil =>
      cases h
      exact ⟨rfl, fun _ _ => rfl⟩
  | cons a more ih =>
      obtain ⟨c₁, hc₁, h⟩ := foldlM_cons_eq_some.mp h
      have hs : s.step (.collector a) = some { s with collector := c₁ } := by
        simp [step, collect?, hc₁]
      obtain ⟨hrun, harr⟩ := ih (s := { s with collector := c₁ }) h
      refine ⟨foldlM_cons_eq_some.mpr ⟨_, hs, hrun⟩, ?_⟩
      intro id number
      have := harr id number
      simp_all [arrivals, emitted, arrival?]

/-- Where a task of the collector has been brought to, and nothing else has changed, its call goes
on. -/
theorem exists_collected {P : RegistryTask ReplyFrame → Prop} (hcol : s.collector.CanEnd task P) :
    ∃ (c' : Collector ReplyFrame) (t : RegistryTask ReplyFrame), c'.tasks[task]? = some t ∧ P t ∧
      ∀ {how}, ({ s with collector := c' } : ForwardEngine).EndsAs call how →
        s.EndsAs call how := by
  obtain ⟨more, c', hrun, hmore, hquiet, t, ht, hP⟩ := hcol
  obtain ⟨hrun', harr⟩ := run_collector hrun
  refine ⟨c', t, ht, hP, ?_⟩
  rintro how ⟨more', s'', hrun'', hmore', hquiet', hend⟩
  have hall : s.run (more.map .collector ++ more') = some s'' :=
    foldlM_append_eq_some.mpr ⟨{ s with collector := c' }, hrun', hrun''⟩
  refine ⟨more.map .collector ++ more', s'', hall, ?_, ?_, hend⟩
  · intro a ha
    rcases List.mem_append.mp ha with ha | ha
    · obtain ⟨ca, hca, rfl⟩ := List.mem_map.mp ha
      rcases hmore ca hca with rfl | rfl
      · exact .advance
      · exact .expire
    · exact hmore' a ha
  · intro id number
    have h1 := harr id number
    have h2 := hquiet' id number
    rw [arrivals] at h1 h2 ⊢
    rw [emitted_append hrun', h1, hquiet, h2]
    rfl

/-- A task of the collector that can be brought to an end lets its call go on. -/
theorem EndsAs.collector {P : RegistryTask ReplyFrame → Prop} (hcol : s.collector.CanEnd task P)
    (h : ∀ (c' : Collector ReplyFrame) (t : RegistryTask ReplyFrame), c'.tasks[task]? = some t →
      P t → ({ s with collector := c' } : ForwardEngine).EndsAs call how) :
    s.EndsAs call how := by
  obtain ⟨c', t, ht, hP, hend⟩ := exists_collected hcol
  exact hend (h c' t ht hP)

theorem CanEnd.collector {P : RegistryTask ReplyFrame → Prop} (hcol : s.collector.CanEnd task P)
    (h : ∀ (c' : Collector ReplyFrame) (t : RegistryTask ReplyFrame), c'.tasks[task]? = some t →
      P t → ({ s with collector := c' } : ForwardEngine).CanEnd call) : s.CanEnd call := by
  obtain ⟨c', t, ht, hP, hend⟩ := exists_collected hcol
  obtain ⟨r, hr⟩ := canEnd_iff.mp (h c' t ht hP)
  exact canEnd_iff.mpr ⟨r, hend hr⟩

theorem getElem?_setStage (hc : s.calls[call]? = some c) (stage : ForwardStage) :
    (s.setStage call stage).calls[call]? = some { c with stage } := by
  rw [calls_setStage hc, List.getElem?_set_self (List.getElem?_eq_some_iff.mp hc).1]

/-! ### Stage by stage -/

variable {units : List PhysicalUnit} {id : CorrelationId} {sources : List String}
  {held : List UnitGroup} {r : Except ExecutionError Response}

theorem endsAs_ended (hc : s.calls[call]? = some ⟨units, .ended how⟩) : s.EndsAs call how :=
  ⟨[], s, rfl, by simp, fun _ _ => rfl, by simp [stage?, hc]⟩

theorem endsAs_removing {id' : CorrelationId} {stage : RemovalStage}
    (hc : s.calls[call]? = some ⟨units, .removing task held how⟩)
    (ht : s.collector.tasks[task]? = some (.unregister id' stage)) : s.EndsAs call how := by
  refine .collector (Collector.canEnd_unregister ht) ?_
  intro c' t ht hP
  obtain ⟨id', removed, rfl⟩ := hP
  let s₁ : ForwardEngine := { s with collector := c' }
  have hc₁ : s₁.calls[call]? = some ⟨units, .removing task held how⟩ := hc
  have hs : s₁.step (.conclude call) = some
      ((s₁.record (Acquisition.releases call held)).setStage call (.ended how)) := by
    simp [step, stage?, hc₁, taskOver, s₁, ht]
  exact .step hs .conclude (fun _ _ => rfl) (endsAs_ended (getElem?_setStage hc₁ _))

theorem endsAs_leaving (hc : s.calls[call]? = some ⟨units, .leaving id held how⟩) :
    s.EndsAs call how := by
  let s₁ : ForwardEngine :=
    { s with collector := s.collector.spawn (.unregister id .removing) }
  have hs : s.step (.leave call) =
      some (s₁.setStage call (.removing s.collector.tasks.length held how)) := by
    simp [step, stage?, hc, collect?, Collector.step, s₁]
  have hc₁ : s₁.calls[call]? = some ⟨units, .leaving id held how⟩ := hc
  have ht : s₁.collector.tasks[s.collector.tasks.length]? = some (.unregister id .removing) :=
    List.getElem?_concat_length
  exact .step hs .leave (fun _ _ => rfl) (endsAs_removing (getElem?_setStage hc₁ _) ht)

/-- A call that was given up while it waited ends when its task has gone. -/
theorem endsAs_abandoning {id' : CorrelationId} {timeout : Duration}
    {stage : AwaitStage ReplyFrame} (hc : s.calls[call]? = some ⟨units, .abandoning id task⟩)
    (ht : s.collector.tasks[task]? = some (.await id' timeout stage))
    (hs : stage.isGivenUp = true) : s.EndsAs call .dropped := by
  refine .collector (Collector.canEnd_givenUp ht hs) ?_
  intro c' t ht hP
  obtain ⟨id', timeout, rfl⟩ := hP
  let s₁ : ForwardEngine := { s with collector := c' }
  have hc₁ : s₁.calls[call]? = some ⟨units, .abandoning id task⟩ := hc
  have hs : s₁.step (.settle call) = some (s₁.setStage call (.leaving id [] .dropped)) := by
    simp [step, stage?, hc₁, taskOver, s₁, ht]
  exact .step hs .settle (fun _ _ => rfl) (endsAs_leaving (getElem?_setStage hc₁ _))

/-- A call whose task has its result goes on with it. -/
theorem canEnd_settled {result : Except ExecutionError (List ReplyFrame)}
    (hc : s.calls[call]? = some ⟨units, .waiting id sources task⟩)
    (ha : s.awaited? task = some result) : s.CanEnd call := by
  have hs : s.step (.settle call) = some ((s.report (respond id sources result).2).setStage call
      (.leaving id [] (.result (respond id sources result).1))) := by
    simp [step, stage?, hc, ha]
  have hc₁ : (s.report (respond id sources result).2).calls[call]? =
      some ⟨units, .waiting id sources task⟩ := hc
  exact .step hs .settle (fun _ _ => rfl)
    (canEnd_iff.mpr ⟨_, endsAs_leaving (getElem?_setStage hc₁ _)⟩)

theorem canEnd_waiting {timeout : Duration} {stage : AwaitStage ReplyFrame}
    (hc : s.calls[call]? = some ⟨units, .waiting id sources task⟩)
    (ht : s.collector.tasks[task]? = some (.await id timeout stage)) (hs : stage.isGivenUp = false)
    (hwait : ∀ n, (RegistryTask.await id timeout stage).number? = some n ∨
      s.collector.registry.find? id = some n → ∃ w, s.collector.registry.wait? n = some w) :
    s.CanEnd call := by
  refine .collector (Collector.canEnd_await ht hs hwait) ?_
  intro c' t ht hP
  obtain ⟨id', timeout', result, rfl⟩ := hP
  have ha : ({ s with collector := c' } : ForwardEngine).awaited? task = some result := by
    simp [awaited?, ht]
  exact canEnd_settled hc ha

theorem canEnd_sent (hc : s.calls[call]? = some ⟨units, .sent id sources⟩)
    (hwait : ∀ n, s.collector.registry.find? id = some n →
      ∃ w, s.collector.registry.wait? n = some w) : s.CanEnd call := by
  let s₁ : ForwardEngine :=
    { s with collector := s.collector.spawn (.await id s.settings.timeout .finding) }
  have hs : s.step (.await call) =
      some (s₁.setStage call (.waiting id sources s.collector.tasks.length)) := by
    simp [step, stage?, hc, collect?, Collector.step, s₁]
  have hc₁ : s₁.calls[call]? = some ⟨units, .sent id sources⟩ := hc
  have ht : (s₁.setStage call (.waiting id sources s.collector.tasks.length)).collector.tasks[
      s.collector.tasks.length]? = some (.await id s.settings.timeout .finding) :=
    List.getElem?_concat_length
  refine .step hs .await (fun _ _ => rfl)
    (canEnd_waiting (getElem?_setStage hc₁ _) ht rfl fun n hn => ?_)
  rcases hn with hn | hn
  · cases hn
  · exact hwait n hn

/-- A call sends what it still has to send, and goes on. -/
theorem canEnd_sending {rest : List PhysicalUnit} {underWay : Bool}
    (hc : s.calls[call]? = some ⟨units, .sending id held rest underWay⟩)
    (hrest : underWay = true → rest ≠ [])
    (hwait : ∀ n, s.collector.registry.find? id = some n →
      ∃ w, s.collector.registry.wait? n = some w) : s.CanEnd call := by
  induction rest generalizing s underWay with
  | nil =>
      cases underWay with
      | true => exact absurd rfl (hrest rfl)
      | false =>
          have hs : s.step (.giveBack call) =
              some ((s.record (Acquisition.releases call held)).setStage call
                (.sent id (units.map (·.dataSource)))) := by
            simp [step, hc]
          have hc₁ : (s.record (Acquisition.releases call held)).calls[call]? =
              some ⟨units, .sending id held [] false⟩ := hc
          exact .step hs .giveBack (fun _ _ => rfl) (canEnd_sent (getElem?_setStage hc₁ _) hwait)
  | cons u rest ih =>
      have htaken : ∀ {s : ForwardEngine},
          s.calls[call]? = some ⟨units, .sending id held (u :: rest) true⟩ →
          (∀ n, s.collector.registry.find? id = some n →
            ∃ w, s.collector.registry.wait? n = some w) → s.CanEnd call := by
        intro s hc hwait
        have hs : s.step (.sent call none) =
            some (s.setStage call (.sending id held rest false)) := by
          simp [step, stage?, hc]
        exact .step hs .sent (fun _ _ => rfl)
          (ih (getElem?_setStage hc _) (fun h => by cases h) hwait)
      cases underWay with
      | true => exact htaken hc hwait
      | false =>
          let s₁ := (s.record [.sent call u.dataSource (s.request id u)]).report
            (sqlLines s.settings.showSql u)
          have hs : s.step (.send call) =
              some (s₁.setStage call (.sending id held (u :: rest) true)) := by
            simp [step, stage?, hc, s₁]
          have hc₁ : s₁.calls[call]? = some ⟨units, .sending id held (u :: rest) false⟩ := hc
          exact .step hs .send (fun _ _ => rfl) (htaken (getElem?_setStage hc₁ _) hwait)

end ForwardEngine

/-- A call on its course has not been given up. -/
theorem AwaitCourse.isGivenUp {α : Type} {id : CorrelationId} {timeout : Duration}
    {number size : Nat} {arrived : List α} {c : Collector α} {w : Wait α} {stage : AwaitStage α}
    (h : AwaitCourse id timeout number size arrived c w stage) : stage.isGivenUp = false := by
  cases h <;> rfl

/-- **A call that has registered its id can be brought to a result**, unless it is given up, by
steps by which it goes on. -/
theorem OnCourse.canEnd {id : CorrelationId} {number call : Nat} {units : List PhysicalUnit}
    {arrived : List ReplyFrame} {s : ForwardEngine}
    (h : OnCourse id number units call arrived s) (hgone : ¬s.GaveUp call) : s.CanEnd call := by
  obtain ⟨stage, w, hc, hst, hs⟩ := h.resolve_left hgone
  have hfind : ∀ n, s.collector.registry.find? id = some n →
      ∃ w, s.collector.registry.wait? n = some w := by
    intro n hn
    obtain rfl := (hst.belongs.find?_iff hn).mpr rfl
    exact ⟨w, hst.wait⟩
  cases hs with
  | sending hrest _ _ _ => exact ForwardEngine.canEnd_sending hc hrest hfind
  | sent _ _ _ => exact ForwardEngine.canEnd_sent hc hfind
  | waiting ht hs _ =>
      apply ForwardEngine.canEnd_waiting hc ht hs.isGivenUp
      intro n hn
      rcases hn with hn | hn
      · obtain rfl := (hst.belongs.number_iff ht hn).mpr rfl
        exact ⟨w, hst.wait⟩
      · exact hfind n hn
  | leaving _ _ => exact ForwardEngine.canEnd_iff.mpr ⟨_, ForwardEngine.endsAs_leaving hc⟩
  | removing ht _ _ =>
      obtain ⟨id', stage, ht⟩ := ht
      exact ForwardEngine.canEnd_iff.mpr ⟨_, ForwardEngine.endsAs_removing hc ht⟩
  | ended _ _ => exact ForwardEngine.canEnd_iff.mpr ⟨_, ForwardEngine.endsAs_ended hc⟩

end ScatterGather
