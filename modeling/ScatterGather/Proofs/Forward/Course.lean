import ScatterGather.Proofs.Forward.Tickets
import ScatterGather.Proofs.Forward.Verdict

/-!
# The course of a forwarded statement

From the moment at which a call has registered its id, the stage it stands at says how its wait
stands (`ForwardCourse`): it collects the replies that arrive until all are there or the deadline
has closed it, and the result of the call is then the verdict on the replies that have arrived
(`ForwardEngine.arrivals`). Every move of the engine keeps this (`OnCourse.move`), whoever makes it,
unless the call is given up.
-/

namespace ScatterGather

open Forward

/-! ### Arrivals at an engine -/

namespace ForwardEngine

/-- The reply that arrives with an action under an id, as long as the wait of a number has not been
closed. -/
def arrival? (id : CorrelationId) (number : Nat) (s : ForwardEngine) :
    ForwardAction → Option ReplyFrame
  | .collector a => s.collector.arrival? id number a
  | _ => none

/-- The replies that arrive along a run under an id, until the wait of a number is closed. -/
def arrivals (id : CorrelationId) (number : Nat) (s : ForwardEngine)
    (actions : List ForwardAction) : List ReplyFrame :=
  emitted step (arrival? id number) s actions

end ForwardEngine

/-! ### Giving up -/

/-- The caller has given the call up. -/
def ForwardStage.isGivenUp : ForwardStage → Bool
  | .abandoning _ _ | .leaving _ _ .dropped | .removing _ _ .dropped | .ended .dropped => true
  | _ => false

/-- A call has been given up by its caller, or the task by which it waits has been. -/
def ForwardEngine.GaveUp (s : ForwardEngine) (call : Nat) : Prop :=
  ∃ c, s.calls[call]? = some c ∧ (c.stage.isGivenUp = true ∨
    ∃ id sources task id' timeout stage, c.stage = .waiting id sources task ∧
      s.collector.tasks[task]? = some (.await id' timeout stage) ∧ stage.isGivenUp = true)

/-- A task that has been given up stays so. -/
theorem Collector.Moves.isGivenUp {α : Type} {c c' : Collector α} {a : CollectorAction α}
    (h : c.Moves a c') {task : Nat} {id : CorrelationId} {timeout : Duration}
    {stage : AwaitStage α} (ht : c.tasks[task]? = some (.await id timeout stage))
    (hs : stage.isGivenUp = true) :
    ∃ stage', c'.tasks[task]? = some (.await id timeout stage') ∧ stage'.isGivenUp = true := by
  obtain ⟨t', ht', rfl | ⟨-, hm⟩ | ⟨-, hi⟩⟩ := h.task_cases ht
  · exact ⟨stage, ht', hs⟩
  · generalize c.event? a = event, c'.registry = r' at hm
    cases hm with
    | left _ | leftNothing _ | swept => exact ⟨_, ht', rfl⟩
    | awaitFound _ | awaitUnknown _ | claimed _ _ | awaited _ _ | waits _ _ | returned _
    | removed _ | absent _ | shut => cases hs
  · cases hi with
    | expired | cancelled | forgotten => cases hs

/-- A removal stays one. -/
theorem Collector.Moves.unregister_kept {α : Type} {c c' : Collector α} {a : CollectorAction α}
    (h : c.Moves a c') {task : Nat} {id : CorrelationId} {stage : RemovalStage}
    (ht : c.tasks[task]? = some (.unregister id stage)) :
    ∃ stage', c'.tasks[task]? = some (.unregister id stage') := by
  obtain ⟨t', ht', rfl | ⟨-, hm⟩ | ⟨-, hi⟩⟩ := h.task_cases ht
  · exact ⟨stage, ht'⟩
  · generalize c.event? a = event, c'.registry = r' at hm
    cases hm <;> exact ⟨_, ht'⟩
  · cases hi

/-! ### The course of a call -/

/-- Where a call stands that has registered its id, and what is true of its wait there. -/
inductive ForwardCourse (id : CorrelationId) (timeout : Duration) (number : Nat)
    (units : List PhysicalUnit) (arrived : List ReplyFrame) (c : Collector ReplyFrame)
    (w : Wait ReplyFrame) : ForwardStage → Prop where
  | sending {held rest underWay} (hrest : underWay = true → rest ≠ []) (hw : w.claimed = false)
    (hin : InTime id number c w) (hserve : c.ServedBy id none) :
    ForwardCourse id timeout number units arrived c w (.sending id held rest underWay)
  | sent (hw : w.claimed = false) (hin : InTime id number c w) (hserve : c.ServedBy id none) :
    ForwardCourse id timeout number units arrived c w (.sent id (units.map (·.dataSource)))
  | waiting {task stage} (ht : c.tasks[task]? = some (.await id timeout stage))
    (hs : AwaitCourse id timeout number units.length arrived c w stage)
    (hserve : c.ServedBy id (some task)) :
    ForwardCourse id timeout number units arrived c w
      (.waiting id (units.map (·.dataSource)) task)
  | leaving {held r} (hw : w.status = .delivered ∨ w.status = .closed)
    (hv : Verdict id timeout units arrived r) :
    ForwardCourse id timeout number units arrived c w (.leaving id held (.result r))
  | removing {task held r} (ht : ∃ id' stage, c.tasks[task]? = some (.unregister id' stage))
    (hw : w.status = .delivered ∨ w.status = .closed) (hv : Verdict id timeout units arrived r) :
    ForwardCourse id timeout number units arrived c w (.removing task held (.result r))
  | ended {r} (hw : w.status = .delivered ∨ w.status = .closed)
    (hv : Verdict id timeout units arrived r) :
    ForwardCourse id timeout number units arrived c w (.ended (.result r))

namespace Standing

variable {id : CorrelationId} {timeout : Duration} {number : Nat} {units : List PhysicalUnit}
  {arrived : List ReplyFrame} {c c' : Collector ReplyFrame} {w : Wait ReplyFrame}
  {stage : ForwardStage}

/-- The verdict on replies stays what it is when the wait has stopped collecting. -/
theorem verdict (h : Standing id number units.length arrived c w)
    {a : CollectorAction ReplyFrame} (hm : c.Moves a c')
    (ha : ∀ expected, a ≠ .register id expected)
    (hw : w.status = .delivered ∨ w.status = .closed) {r : Except ExecutionError Response}
    (hv : Verdict id timeout units arrived r) :
    ∃ w', Standing id number units.length (arrived ++ (c.arrival? id number a).toList) c' w' ∧
      (w'.status = .delivered ∨ w'.status = .closed) ∧
      Verdict id timeout units (arrived ++ (c.arrival? id number a).toList) r := by
  have hne : w.status ≠ .collecting := by rcases hw with hw | hw <;> simp [hw]
  obtain ⟨w', hst, he⟩ := h.settled hm ha hne
  refine ⟨w', hst, hw.imp he.delivered he.keeps_closed, ?_⟩
  rcases hw with hw | hw
  · have hle := h.size_le (by simp [Wait.isComplete, hw])
    exact hv.congr hle (by rw [List.length_append]; omega) (.of_eq (h.take_concat hne).symm)
  · rw [h.arrival?_of_closed hw, Option.toList_none, List.append_nil]
    exact hv

/-- What others do in the collector leaves a call on its course. -/
theorem forward (h : Standing id number units.length arrived c w)
    {a : CollectorAction ReplyFrame} (hm : c.Moves a c') (ha : a.claims? ≠ some id)
    (hown : ∀ task sources, stage = .waiting id sources task → a.task? ≠ some task)
    (hs : ForwardCourse id timeout number units arrived c w stage) :
    ∃ w', Standing id number units.length (arrived ++ (c.arrival? id number a).toList) c' w' ∧
      ForwardCourse id timeout number units (arrived ++ (c.arrival? id number a).toList) c' w'
        stage := by
  have hreg : ∀ expected, a ≠ .register id expected := fun expected heq => ha (heq ▸ rfl)
  cases hs with
  | sending hrest hw hin hserve =>
      obtain ⟨w', hap⟩ := h.apart hm hserve ha nofun
      exact ⟨w', hap.standing, .sending hrest (hap.claimed.trans hw) (hap.inTime hin)
        (hserve.move hm ha)⟩
  | sent hw hin hserve =>
      obtain ⟨w', hap⟩ := h.apart hm hserve ha nofun
      exact ⟨w', hap.standing, .sent (hap.claimed.trans hw) (hap.inTime hin) (hserve.move hm ha)⟩
  | @waiting task stage ht hs hserve =>
      have hne := hown task _ rfl
      obtain ⟨w', hap⟩ := h.apart hm hserve ha fun task' heq => Option.some.inj heq ▸ hne
      obtain ⟨t', ht', rfl | ⟨rfl, -⟩ | ⟨ha', -⟩⟩ := hm.task_cases ht
      · exact ⟨w', hap.standing, .waiting ht' (hap.course hs) (hserve.move hm ha)⟩
      · exact absurd rfl hne
      · rcases ha' with rfl | rfl <;> exact absurd rfl hne
  | leaving hw hv =>
      obtain ⟨w', hst, hw', hv'⟩ := h.verdict hm hreg hw hv
      exact ⟨w', hst, .leaving hw' hv'⟩
  | removing ht hw hv =>
      obtain ⟨w', hst, hw', hv'⟩ := h.verdict hm hreg hw hv
      obtain ⟨id', stage, ht⟩ := ht
      exact ⟨w', hst, .removing ⟨id', hm.unregister_kept ht⟩ hw' hv'⟩
  | ended hw hv =>
      obtain ⟨w', hst, hw', hv'⟩ := h.verdict hm hreg hw hv
      exact ⟨w', hst, .ended hw' hv'⟩

/-- Taking an id leaves a wait as it is. -/
theorem takeId (h : Standing id number units.length arrived c w) :
    Apart id number units.length arrived arrived c
      { c with registry := c.registry.takeId.2 } w w := by
  obtain ⟨owners, events, hO, hown⟩ := h.belongs
  exact ⟨⟨⟨owners, events, hO.takeId, hown⟩, h.wait, h.expected, h.holds, h.entry⟩, rfl, rfl,
    .inl rfl, fun _ => rfl, fun _ => rfl⟩

/-- What other calls do with the collector leaves a call on its course. -/
theorem forward_use (h : Standing id number units.length arrived c w) {use : RegistryUse}
    (hu : c.use? use = some c')
    (hquiet : ∀ a, use = .act a → c.event? a = none ∧ a.claims? ≠ some id ∧
      ∀ task sources, stage = .waiting id sources task → a.task? ≠ some task)
    (hs : ForwardCourse id timeout number units arrived c w stage) :
    ∃ w', Standing id number units.length arrived c' w' ∧
      ForwardCourse id timeout number units arrived c' w' stage := by
  rcases Collector.of_use? hu with ⟨-, rfl⟩ | ⟨-, rfl⟩ | ⟨a, ha, hm⟩
  · exact ⟨w, h, hs⟩
  · refine ⟨w, h.takeId.standing, ?_⟩
    cases hs with
    | sending hrest hw hin hserve => exact .sending hrest hw hin hserve
    | sent hw hin hserve => exact .sent hw hin hserve
    | waiting ht hs hserve => exact .waiting ht (h.takeId.course hs) hserve
    | leaving hw hv => exact .leaving hw hv
    | removing ht hw hv => exact .removing ht hw hv
    | ended hw hv => exact .ended hw hv
  · obtain ⟨he, hcl, hown⟩ := hquiet a ha
    have hnone : c.arrival? id number a = none := by
      rw [Collector.arrival?, he]
      exact ite_self none
    simpa [hnone] using h.forward hm hcl hown hs

end Standing

/-! ### Along the moves of an engine -/

namespace ForwardEngine

variable {s s' : ForwardEngine} {a : ForwardAction} {call : Nat}

/-- A task that has been given up stays so when a call uses the collector. -/
theorem isGivenUp_of_use {use : RegistryUse} {c' : Collector ReplyFrame}
    (hu : s.collector.use? use = some c') {task : Nat} {id : CorrelationId} {timeout : Duration}
    {stage : AwaitStage ReplyFrame} (ht : s.collector.tasks[task]? = some (.await id timeout stage))
    (hs : stage.isGivenUp = true) :
    ∃ stage', c'.tasks[task]? = some (.await id timeout stage') ∧ stage'.isGivenUp = true := by
  rcases Collector.of_use? hu with ⟨-, rfl⟩ | ⟨-, rfl⟩ | ⟨ca, -, hm⟩
  · exact ⟨stage, ht, hs⟩
  · exact ⟨stage, ht, hs⟩
  · exact hm.isGivenUp ht hs

/-- A call that has been given up stays so. -/
theorem GaveUp.move (h : s.GaveUp call) (hm : s.Moves a s') : s'.GaveUp call := by
  obtain ⟨c, hc, hgone⟩ := h
  cases hm with
  | begin _ hcalls hcol =>
      exact ⟨c, hcalls ▸ getElem?_append_of_eq_some hc, hcol ▸ hgone⟩
  | collector _ hcalls hcol =>
      refine ⟨c, hcalls ▸ hc, hgone.imp_right ?_⟩
      rintro ⟨id, sources, task, id', timeout, stage, hst, ht, hs⟩
      obtain ⟨stage', ht', hs'⟩ := (Collector.moves_of_step hcol).isGivenUp ht hs
      exact ⟨id, sources, task, id', timeout, stage', hst, ht', hs'⟩
  | @call k ck use stage hck hm hcalls hcol =>
      by_cases hk : k = call
      · subst hk
        obtain rfl := Option.some.inj (hc.symm.trans hck)
        refine ⟨{ c with stage }, ?_, .inl ?_⟩
        · rw [hcalls, List.getElem?_set_self (List.getElem?_eq_some_iff.mp hc).1]
        · generalize c.stage = before at hm hgone
          rcases hgone with hgone | ⟨id, sources, task, id', timeout, stage', rfl, ht, hs⟩
          · cases hm with
            | abandoned _ | dropped _ | droppedEarly | cancels => rfl
            | @leaves _ _ how | @concluded _ _ how _ =>
                cases how with
                | result r => cases hgone
                | dropped => rfl
            | asked _ | granted _ | refused | tookId _ | registered _ | occupied _ | sends | sent
            | sendFailed | gaveBack | awaits | settled _ => cases hgone
          · cases hm with
            | settled h =>
                obtain ⟨t, ht', h⟩ := Option.bind_eq_some_iff.mp h
                obtain rfl := Option.some.inj (ht.symm.trans ht')
                cases stage' <;> cases h
                cases hs
            | dropped _ | droppedEarly | cancels => rfl
      · refine ⟨c, ?_, hgone.imp_right ?_⟩
        · rw [hcalls, List.getElem?_set_ne hk, hc]
        · rintro ⟨id, sources, task, id', timeout, stage, hst, ht, hs⟩
          obtain ⟨stage', ht', hs'⟩ := isGivenUp_of_use hcol ht hs
          exact ⟨id, sources, task, id', timeout, stage', hst, ht', hs'⟩

end ForwardEngine

/-- A call that has registered its id is on its course, or has been given up. -/
def OnCourse (id : CorrelationId) (number : Nat) (units : List PhysicalUnit) (call : Nat)
    (arrived : List ReplyFrame) (s : ForwardEngine) : Prop :=
  s.GaveUp call ∨ ∃ stage w, s.calls[call]? = some ⟨units, stage⟩ ∧
    Standing id number units.length arrived s.collector w ∧
    ForwardCourse id s.settings.timeout number units arrived s.collector w stage

section

variable {id : CorrelationId} {number call : Nat} {units : List PhysicalUnit}
  {arrived : List ReplyFrame} {s s' : ForwardEngine} {a : ForwardAction}

/-- A call goes on its course by its own steps, unless it is given up. -/
theorem Standing.forward_own {w : Wait ReplyFrame} {stage stage' : ForwardStage}
    {use : RegistryUse} {c' : Collector ReplyFrame}
    (h : Standing id number units.length arrived s.collector w)
    (hm : ForwardCall.Moves s call units a stage use stage')
    (hidx : units.map (·.index) = List.range units.length) (hnf : ∀ e, a ≠ .sent call (some e))
    (hu : s.collector.use? use = some c')
    (hs : ForwardCourse id s.settings.timeout number units arrived s.collector w stage) :
    stage'.isGivenUp = true ∨ ∃ w', Standing id number units.length arrived c' w' ∧
      ForwardCourse id s.settings.timeout number units arrived c' w' stage' := by
  cases hm with
  | asked _ | granted _ | refused | tookId _ | registered _ | occupied _ | abandoned _ => cases hs
  | dropped _ | droppedEarly | cancels => exact .inl rfl
  | sends =>
      cases hs with
      | sending _ hw hin hserve =>
          cases hu
          exact .inr ⟨w, h, .sending (fun _ => List.cons_ne_nil _ _) hw hin hserve⟩
  | sent =>
      cases hs with
      | sending _ hw hin hserve =>
          cases hu
          exact .inr ⟨w, h, .sending (fun h => by cases h) hw hin hserve⟩
  | @sendFailed _ _ _ _ e => exact absurd rfl (hnf e)
  | gaveBack =>
      cases hs with
      | sending _ hw hin hserve =>
          cases hu
          exact .inr ⟨w, h, .sent hw hin hserve⟩
  | awaits =>
      cases hs with
      | sent hw hin hserve =>
          have hm : s.collector.Moves (.await id s.settings.timeout) c' :=
            Collector.moves_of_step hu
          obtain rfl : s.collector.spawn _ = c' := Option.some.inj hu
          have hb := h.belongs.move hm fun _ heq => by cases heq
          exact .inr ⟨w, h.same hb h.wait (.refl w) rfl,
            .waiting (by simp) (.finding hw hin) (hserve.spawn _)⟩
  | settled hr =>
      cases hs with
      | waiting ht hs hserve =>
          cases hu
          obtain ⟨t, ht', hr⟩ := Option.bind_eq_some_iff.mp hr
          obtain rfl := Option.some.inj (ht.symm.trans ht')
          cases hs with
          | ended hres =>
              cases hr
              refine .inr ⟨w, h, ?_⟩
              cases hres with
              | replies hd =>
                  have hle := h.size_le (by simp [Wait.isComplete, hd])
                  exact .leaving (.inl hd) (verdict_respond hidx hle)
              | late hc =>
                  exact .leaving (.inr hc) (.late (h.length_lt (by simp [Wait.isComplete, hc])))
          | finding _ _ | claiming _ _ | waiting _ _ | lastLook _ | taken _ | missed _ | removing _
          | closing _ => cases hr
  | leaves =>
      cases hs with
      | leaving hw hv =>
          have hm : s.collector.Moves (.unregister id) c' := Collector.moves_of_step hu
          obtain ⟨w', hst, hw', hv'⟩ := h.verdict hm (fun _ heq => by cases heq) hw hv
          have hnone : s.collector.arrival? id number (.unregister id) = none := ite_self none
          rw [hnone, Option.toList_none, List.append_nil] at hst hv'
          obtain rfl : s.collector.spawn _ = c' := Option.some.inj hu
          exact .inr ⟨w', hst, .removing ⟨id, .removing, by simp⟩ hw' hv'⟩
  | concluded _ =>
      cases hs with
      | removing _ hw hv =>
          cases hu
          exact .inr ⟨w, h, .ended hw hv⟩

/-- No reply arrives by a step of a call. -/
theorem ForwardCall.Moves.arrival?_eq_none {stage stage' : ForwardStage} {use : RegistryUse}
    (h : ForwardCall.Moves s call units a stage use stage') : s.arrival? id number a = none := by
  cases h <;> rfl

/-- **Every move leaves a call on its course**, with the reply that arrives by it. -/
theorem OnCourse.move (h : OnCourse id number units call arrived s) (hm : s.Moves a s')
    (hset : s'.settings = s.settings) {taken : List Nat} {foreign : List CorrelationId}
    (hT : Tickets taken foreign s) (hlen : taken.length ≤ UInt64.size)
    (hi : ∃ i : Nat, taken[i]? = some call ∧ id = ticketId i)
    (hidx : units.map (·.index) = List.range units.length) (hforeign : a.foreign? ≠ some id)
    (hnf : ∀ e, a ≠ .sent call (some e)) :
    OnCourse id number units call (arrived ++ (s.arrival? id number a).toList) s' := by
  rcases h with hgone | ⟨stage, w, hc, hst, hs⟩
  · exact .inl (hgone.move hm)
  cases hm with
  | @begin route keys ha hcalls hcol =>
      subst ha
      have hnone : s.arrival? id number (.begin route keys) = none := rfl
      rw [hnone, Option.toList_none, List.append_nil]
      refine .inr ⟨stage, w, ?_, hcol ▸ hst, hset ▸ hcol ▸ hs⟩
      exact hcalls ▸ getElem?_append_of_eq_some hc
  | @call k ck use stage' hck hm hcalls hcol =>
      rw [hm.arrival?_eq_none, Option.toList_none, List.append_nil]
      by_cases hk : k = call
      · subst hk
        obtain rfl := Option.some.inj (hc.symm.trans hck)
        have hself : s'.calls[k]? = some ⟨units, stage'⟩ := by
          rw [hcalls, List.getElem?_set_self (List.getElem?_eq_some_iff.mp hc).1]
        rcases hst.forward_own hm hidx hnf hcol hs with hgone | ⟨w', hst', hs'⟩
        · exact .inl ⟨_, hself, .inl hgone⟩
        · exact .inr ⟨stage', w', hself, hst', hset ▸ hs'⟩
      · have hother : s'.calls[call]? = some ⟨units, stage⟩ := by
          rw [hcalls, List.getElem?_set_ne hk, hc]
        have hid : ck.stage.id? ≠ some id := fun hid => hk (hT.eq_of_holds hlen hi hck hid)
        have hquiet : ∀ ca, use = .act ca → s.collector.event? ca = none ∧ ca.claims? ≠ some id ∧
            ∀ task sources, stage = .waiting id sources task → ca.task? ≠ some task := by
          rintro ca rfl
          refine ⟨hm.event?_eq_none _, fun hcl => hid ((hm.claims rfl).1 id hcl), ?_⟩
          rintro task sources rfl hta
          obtain ⟨id', sources', hst'⟩ := (hm.claims rfl).2 task hta
          obtain ⟨t, ht, -, rfl⟩ := hT.waiting hck hst'
          cases hs with
          | waiting ht' _ _ =>
              obtain rfl := Option.some.inj (ht.symm.trans ht')
              exact hid (by rw [hst']; rfl)
        obtain ⟨w', hst', hs'⟩ := hst.forward_use hcol hquiet hs
        exact .inr ⟨stage, w', hother, hst', hset ▸ hs'⟩
  | @collector ca ha hcalls hcol =>
      subst ha
      have hm := Collector.moves_of_step hcol
      by_cases hown : ∃ task sources, stage = .waiting id sources task ∧ ca.task? = some task
      · obtain ⟨task, sources, rfl, hta⟩ := hown
        cases hs with
        | waiting ht hs hserve =>
            obtain ⟨st', ht', hgone | ⟨w', hst', hs'⟩⟩ := hst.own hm hta ht hs
            · exact .inl ⟨_, hcalls ▸ hc, .inr ⟨_, _, _, _, _, st', rfl, ht', hgone⟩⟩
            · exact .inr ⟨_, w', hcalls ▸ hc, hst',
                .waiting (hset ▸ ht') (hset ▸ hs') (hserve.move hm hforeign)⟩
      · obtain ⟨w', hst', hs'⟩ := hst.forward hm hforeign
          (fun task sources heq hta => hown ⟨task, sources, heq, hta⟩) hs
        exact .inr ⟨stage, w', hcalls ▸ hc, hst', hset ▸ hs'⟩

end

end ScatterGather
