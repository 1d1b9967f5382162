import ScatterGather.Proofs.Collector.ExactlyOnce
import ScatterGather.Proofs.Forward.FirstReplies

/-!
# What a forwarded statement meets

A call meets the answers of its channels, the replies that are offered under its id from its
registration on, and its deadline: these are its `Encounter`s, read off a run without looking at
how its wait stands. The replies that it meets in time are those that arrive at its wait, as far as
they matter (`InStep`): nothing but the deadline of the call itself closes the wait, whatever other
calls do with the collector (`InStep.move`).
-/

namespace ScatterGather

/-! ### Closing a wait -/

section

variable {α : Type} {n : Nat} {w w' : Wait α}

/-- A wait in whose place another was put has become that one, or is another one. -/
theorem Registry.of_wait?_setWait {r : Registry α} {number : Nat} {v : Wait α}
    (hw : r.wait? n = some w) (hw' : (r.setWait number v).wait? n = some w') :
    number = n ∧ w' = v ∨ w' = w := by
  rw [wait?_setWait, hw] at hw'
  split at hw'
  · exact .inl ⟨‹_›, (Option.some.inj hw').symm⟩
  · exact .inr (Option.some.inj hw').symm

/-- A step on a wait closes it only past the deadline. -/
theorem WaitMoves.closing {call : Nat} {stage stage' : WaitStage α} {taken : Option (List α)}
    (h : WaitMoves call w stage taken stage' w') (hne : w.status ≠ .closed)
    (hc : w'.status = .closed) : stage = .closing := by
  cases h with
  | shut => rfl
  | took hs => simp [Wait.take?_of_complete hs] at hc
  | missed _ | resumed _ | queued _ | woken _ => exact absurd hc hne
  | looked =>
      rcases w.take?_cases with ⟨-, ht⟩ | ⟨-, ht⟩
      · simp [ht] at hc
      · exact absurd (by simpa [ht] using hc) hne

/-- A wait is closed by a task that closes it. -/
theorem TaskMoves.closes?_of_closed {task : Nat} {r r' : Registry α} {t t' : RegistryTask α}
    {event : Option (ReplyEvent α)} (h : TaskMoves task r t event t' r')
    (hw : r.wait? n = some w) (hw' : r'.wait? n = some w') (hne : w.status ≠ .closed)
    (hc : w'.status = .closed) : t.closes? = some n := by
  have hsame : w' ≠ w := fun heq => hne (heq ▸ hc)
  cases h with
  | found _ | awaitFound _ | awaitUnknown _ | awaited _ _ | returned _ | unknown _ | refused _ _
  | removed _ | absent _ | left _ | leftNothing _ | unregistered _ | notRegistered _ =>
      exact absurd (Option.some.inj (hw'.symm.trans hw)) hsame
  | accepted hv hs =>
      rcases Registry.of_wait?_setWait hw hw' with ⟨-, rfl⟩ | heq
      · rw [Wait.append_status hs] at hc
        split at hc <;> cases hc
      · exact absurd heq hsame
  | @woke _ number v hv =>
      rcases Registry.of_wait?_setWait hw hw' with ⟨rfl, rfl⟩ | heq
      · obtain rfl := Option.some.inj (hw.symm.trans hv)
        exact absurd (w.sameReplies_wakeOne.status ▸ hc) hne
      · exact absurd heq hsame
  | @claimed _ _ number v hv _ =>
      rcases Registry.of_wait?_setWait hw hw' with ⟨rfl, rfl⟩ | heq
      · obtain rfl := Option.some.inj (hw.symm.trans hv)
        exact absurd (w.sameReplies_claim.status ▸ hc) hne
      · exact absurd heq hsame
  | @waits _ _ number stage taken _ v v' hv hm =>
      rcases Registry.of_wait?_setWait hw hw' with ⟨rfl, rfl⟩ | heq
      · obtain rfl := Option.some.inj (hw.symm.trans hv)
        rw [hm.closing hne hc]
        rfl
      · exact absurd heq hsame
  | @shut _ _ number _ | @swept _ _ number | @unregisterShut _ number =>
      rw [Registry.wait?_close, hw] at hw'
      split at hw'
      · next heq => exact congrArg some heq
      · exact absurd (Option.some.inj hw').symm hsame

/-- A wait is closed by the step of a task that closes it. -/
theorem Collector.Moves.closes?_of_closed {c c' : Collector α} {a : CollectorAction α}
    (h : c.Moves a c') (hw : c.registry.wait? n = some w) (hw' : c'.registry.wait? n = some w')
    (hne : w.status ≠ .closed) (hc : w'.status = .closed) :
    ∃ task t, a = .advance task ∧ c.tasks[task]? = some t ∧ t.closes? = some n := by
  cases h with
  | task ht hm => exact ⟨_, _, rfl, ht, hm.closes?_of_closed hw hw' hne hc⟩
  | registered hf =>
      rw [Registry.wait?_enter] at hw'
      split at hw'
      · next heq =>
          rw [heq, Registry.wait?_eq_none_iff.mpr (Nat.le_refl _)] at hw
          cases hw
      · obtain rfl := Option.some.inj (hw'.symm.trans hw)
        exact absurd hc hne
  | occupied _ | offer | await | unregister | forgotten _ =>
      obtain rfl := Option.some.inj (hw'.symm.trans hw)
      exact absurd hc hne
  | @expired task _ _ _ v _ hv | @cancelled task _ _ _ v _ hv =>
      rcases Registry.of_wait?_setWait hw hw' with ⟨rfl, rfl⟩ | rfl
      · obtain rfl := Option.some.inj (hw.symm.trans hv)
        exact absurd ((w.sameReplies_leave task).status ▸ hc) hne
      · exact absurd hc hne

/-- A task closes the wait that it holds. -/
theorem RegistryTask.number?_of_closes? {t : RegistryTask α} (h : t.closes? = some n) :
    t.number? = some n ∧ t.isOffer = false := by
  unfold closes? at h
  split at h <;> cases h <;> exact ⟨rfl, rfl⟩

end

namespace ForwardEngine

variable {s s' : ForwardEngine} {a : ForwardAction} {n : Nat} {w w' : Wait ReplyFrame}

/-- What the move of an engine does to its collector: nothing to waits and tasks, or one of the
moves of the collector, in which a step of a task is an action of the collector. -/
theorem Moves.collector_cases (h : s.Moves a s') :
    s'.collector.registry.waits = s.collector.registry.waits ∧
        s'.collector.tasks = s.collector.tasks ∨
      ∃ ca, s.collector.Moves ca s'.collector ∧
        ∀ task, ca = .advance task → a = .collector (.advance task) := by
  cases h with
  | begin _ _ hcol => exact .inl (hcol ▸ ⟨rfl, rfl⟩)
  | collector ha _ hcol =>
      exact .inr ⟨_, Collector.moves_of_step hcol, fun task heq => heq ▸ ha⟩
  | @call _ c _ _ _ hm _ hcol =>
      rcases Collector.of_use? hcol with ⟨-, heq⟩ | ⟨-, heq⟩ | ⟨ca, rfl, hca⟩
      · exact .inl (heq ▸ ⟨rfl, rfl⟩)
      · exact .inl (heq ▸ ⟨rfl, rfl⟩)
      · refine .inr ⟨ca, hca, ?_⟩
        rintro task rfl
        generalize c.stage = stage at hm
        cases hm

/-- A wait that does not collect never collects again. -/
theorem Moves.stays_settled (h : s.Moves a s') (hw : s.collector.registry.wait? n = some w)
    (hw' : s'.collector.registry.wait? n = some w') (hs : w.status ≠ .collecting) :
    w'.status ≠ .collecting := by
  rcases h.collector_cases with ⟨heq, -⟩ | ⟨ca, hm, -⟩
  · rw [Registry.wait?, heq] at hw'
    obtain rfl := Option.some.inj (hw.symm.trans hw')
    exact hs
  · obtain ⟨v, hv, he⟩ := hm.evolves hw
    obtain rfl := Option.some.inj (hv.symm.trans hw')
    exact (he.settled hs).2

/-- Replies that were taken stay so. -/
theorem Moves.stays_delivered (h : s.Moves a s') (hw : s.collector.registry.wait? n = some w)
    (hw' : s'.collector.registry.wait? n = some w') (hs : w.status = .delivered) :
    w'.status = .delivered := by
  rcases h.collector_cases with ⟨heq, -⟩ | ⟨ca, hm, -⟩
  · rw [Registry.wait?, heq] at hw'
    obtain rfl := Option.some.inj (hw.symm.trans hw')
    exact hs
  · obtain ⟨v, hv, he⟩ := hm.evolves hw
    obtain rfl := Option.some.inj (hv.symm.trans hw')
    exact he.delivered hs

/-- A wait is closed by the step of a task that closes it. -/
theorem Moves.closes?_of_closed (h : s.Moves a s') (hw : s.collector.registry.wait? n = some w)
    (hw' : s'.collector.registry.wait? n = some w') (hne : w.status ≠ .closed)
    (hc : w'.status = .closed) :
    ∃ task t, a = .collector (.advance task) ∧ s.collector.tasks[task]? = some t ∧
      t.closes? = some n := by
  rcases h.collector_cases with ⟨heq, -⟩ | ⟨ca, hm, ha⟩
  · rw [Registry.wait?, heq] at hw'
    obtain rfl := Option.some.inj (hw.symm.trans hw')
    exact absurd hc hne
  · obtain ⟨task, t, hca, ht, hcl⟩ := hm.closes?_of_closed hw hw' hne hc
    exact ⟨task, t, ha task hca, ht, hcl⟩

end ForwardEngine

/-! ### Encounters -/

/-- What a call meets that forwards a statement. -/
inductive Encounter where
  /-- A channel comes, takes a request, or fails. -/
  | channel (failure : Option ExecutionError)
  /-- A reply is offered under the id of the call: it is accepted or refused. -/
  | reply (frame : ReplyFrame)
  /-- The deadline of the call passes: it gives up waiting. -/
  | deadline

namespace Encounter

/-- What a channel has answered. -/
def channel? : Encounter → Option (Option ExecutionError)
  | channel failure => some failure
  | _ => none

end Encounter

/-- What the channels of a call have answered, in order. -/
def channelAnswers (es : List Encounter) : List (Option ExecutionError) :=
  es.filterMap Encounter.channel?

/-- The replies that a call has met before its deadline, in order. -/
def repliesInTime : List Encounter → List ReplyFrame
  | [] | .deadline :: _ => []
  | .reply frame :: rest => frame :: repliesInTime rest
  | .channel _ :: rest => repliesInTime rest

/-- The id under which replies are offered to a call: it has registered it and is not leaving. -/
def ForwardStage.listens? : ForwardStage → Option CorrelationId
  | .sending id _ _ _ | .sent id _ | .waiting id _ _ => some id
  | _ => none

/-- A call gives up waiting with this action, because its deadline has passed. -/
def ForwardStage.givesUp (c : Collector ReplyFrame) :
    ForwardStage → CollectorAction ReplyFrame → Bool
  | .waiting _ _ task, .advance task' =>
    task == task' &&
      match c.tasks[task]? with
      | some (.await _ _ (.waiting _ .closing)) => true
      | _ => false
  | _, _ => false

namespace ForwardEngine

/-- What a call meets with an action. -/
def encounter? (call : Nat) (s : ForwardEngine) : ForwardAction → Option Encounter
  | .acquired other failure | .sent other failure =>
    if other = call then some (.channel failure) else none
  | .collector a => do
    let stage ← s.stage? call
    if stage.givesUp s.collector a then some .deadline
    else ((s.collector.event? a).bind (ReplyEvent.decides? (← stage.listens?))).map .reply
  | _ => none

/-- What a call meets along a run. -/
def encounters (call : Nat) (s : ForwardEngine) (actions : List ForwardAction) : List Encounter :=
  emitted step (encounter? call) s actions

end ForwardEngine

/-! ### Replies in time -/

section

variable {es es' : List Encounter}

@[simp] theorem channelAnswers_append (es es' : List Encounter) :
    channelAnswers (es ++ es') = channelAnswers es ++ channelAnswers es' := List.filterMap_append

/-- Behind the deadline no reply is in time. -/
theorem repliesInTime_append_of_deadline (h : .deadline ∈ es) (es' : List Encounter) :
    repliesInTime (es ++ es') = repliesInTime es := by
  induction es with
  | nil => cases h
  | cons e es ih =>
      cases e with
      | deadline => rfl
      | reply frame => exact congrArg (frame :: ·) (ih (by simpa using h))
      | channel _ => exact ih (by simpa using h)

/-- Before the deadline all replies are. -/
theorem repliesInTime_append (h : .deadline ∉ es) (es' : List Encounter) :
    repliesInTime (es ++ es') = repliesInTime es ++ repliesInTime es' := by
  induction es with
  | nil => rfl
  | cons e es ih =>
      cases e with
      | deadline => exact absurd List.mem_cons_self h
      | reply frame => exact congrArg (frame :: ·) (ih (by simpa using h))
      | channel _ => exact ih (by simpa using h)

/-- The replies in time only become more. -/
theorem repliesInTime_prefix (es es' : List Encounter) :
    repliesInTime es <+: repliesInTime (es ++ es') := by
  by_cases h : .deadline ∈ es
  · simp only [repliesInTime_append_of_deadline h, List.prefix_rfl]
  · rw [repliesInTime_append h]
    exact List.prefix_append _ _

/-- Encounters without a reply add none. -/
theorem repliesInTime_append_of_quiet (es : List Encounter) (h : repliesInTime es' = []) :
    repliesInTime (es ++ es') = repliesInTime es := by
  by_cases hd : .deadline ∈ es
  · exact repliesInTime_append_of_deadline hd es'
  · rw [repliesInTime_append hd, h, List.append_nil]

/-- Channels that have all come have answered so. -/
theorem channelAnswers_replicate (n : Nat) :
    channelAnswers (List.replicate n (.channel none)) = List.replicate n none :=
  List.filterMap_replicate_of_some rfl

theorem repliesInTime_replicate (n : Nat) (failure : Option ExecutionError) :
    repliesInTime (List.replicate n (.channel failure)) = [] := by
  induction n with
  | zero => rfl
  | succ n ih => rwa [List.replicate_succ, repliesInTime]

/-- What lists have first they have first with the same behind them. -/
theorem take_append_congr {α : Type} {l l' : List α} {n : Nat} (h : l.take n = l'.take n)
    (more : List α) : (l ++ more).take n = (l' ++ more).take n := by
  have hlen := congrArg List.length h
  simp only [List.length_take] at hlen
  rw [List.take_append, List.take_append, h, show n - l.length = n - l'.length by omega]

end

/-! ### Encounters and arrivals -/

/-- A call that gives up waiting does so by its task, past the deadline. -/
theorem ForwardStage.givesUp_iff {c : Collector ReplyFrame} {stage : ForwardStage}
    {a : CollectorAction ReplyFrame} :
    stage.givesUp c a = true ↔ ∃ id sources task id' timeout m, stage = .waiting id sources task ∧
      a = .advance task ∧ c.tasks[task]? = some (.await id' timeout (.waiting m .closing)) := by
  constructor
  · intro h
    unfold givesUp at h
    split at h
    · rw [Bool.and_eq_true, beq_iff_eq] at h
      obtain ⟨rfl, h⟩ := h
      split at h
      · next ht => exact ⟨_, _, _, _, _, _, rfl, rfl, ht⟩
      · cases h
    · cases h
  · rintro ⟨id, sources, task, id', timeout, m, rfl, rfl, ht⟩
    simp [givesUp, ht]

section

variable {s s' : ForwardEngine} {a : ForwardAction} {call number : Nat} {units : List PhysicalUnit}
  {id : CorrelationId} {timeout : Duration} {arrived arrived' : List ReplyFrame}
  {stage stage' : ForwardStage} {w w' : Wait ReplyFrame} {es : List Encounter}

/-- What a call meets by something that happens in the collector. -/
theorem encounter?_collector (hc : s.calls[call]? = some ⟨units, stage⟩)
    (ca : CollectorAction ReplyFrame) :
    s.encounter? call (.collector ca) =
      if stage.givesUp s.collector ca then some .deadline
      else stage.listens?.bind fun id =>
        ((s.collector.event? ca).bind (ReplyEvent.decides? id)).map .reply := by
  simp [ForwardEngine.encounter?, ForwardEngine.stage?, hc]

/-- What a call meets by a step of a call is the answer of a channel. -/
theorem encounter?_call (ha : ∀ ca, a ≠ .collector ca) :
    ∀ e ∈ s.encounter? call a, ∃ failure, e = .channel failure := by
  cases a with
  | collector ca => exact absurd rfl (ha ca)
  | acquired other failure | sent other failure =>
      simp only [ForwardEngine.encounter?]
      split <;> simp
  | _ => simp [ForwardEngine.encounter?]

theorem repliesInTime_call (ha : ∀ ca, a ≠ .collector ca) :
    repliesInTime (s.encounter? call a).toList = [] := by
  have h : ∀ e ∈ s.encounter? call a, ∃ failure, e = .channel failure := encounter?_call ha
  cases he : s.encounter? call a with
  | none => rfl
  | some e =>
      obtain ⟨failure, rfl⟩ := h e he
      rfl

/-- A call meets its deadline when it gives up waiting. -/
theorem encounter?_eq_deadline (hc : s.calls[call]? = some ⟨units, stage⟩) :
    s.encounter? call a = some .deadline ↔
      ∃ ca, a = .collector ca ∧ stage.givesUp s.collector ca = true := by
  constructor
  · intro h
    by_cases ha : ∃ ca, a = .collector ca
    · obtain ⟨ca, rfl⟩ := ha
      refine ⟨ca, rfl, ?_⟩
      rw [encounter?_collector hc] at h
      split at h
      · assumption
      · obtain ⟨id, -, h⟩ := Option.bind_eq_some_iff.mp h
        obtain ⟨frame, -, h⟩ := Option.map_eq_some_iff.mp h
        cases h
    · obtain ⟨failure, he⟩ := encounter?_call (fun ca heq => ha ⟨ca, heq⟩) _ h
      cases he
  · rintro ⟨ca, rfl, hg⟩
    rw [encounter?_collector hc, if_pos hg]

/-- A call whose id is not registered, or who is leaving, meets no reply. -/
theorem encounter?_quiet (hc : s.calls[call]? = some ⟨units, stage⟩) (hl : stage.listens? = none) :
    repliesInTime (s.encounter? call a).toList = [] := by
  by_cases ha : ∃ ca, a = .collector ca
  · obtain ⟨ca, rfl⟩ := ha
    rw [encounter?_collector hc, hl]
    split <;> rfl
  · exact repliesInTime_call fun ca heq => ha ⟨ca, heq⟩

/-- The replies that a call meets arrive at its wait, unless this is closed. -/
theorem encounter?_arrival (hc : s.calls[call]? = some ⟨units, stage⟩)
    (hl : stage.listens? = some id) (hst : Standing id number units.length arrived s.collector w)
    (hw : w.status ≠ .closed) :
    repliesInTime (s.encounter? call a).toList = (s.arrival? id number a).toList := by
  by_cases ha : ∃ ca, a = .collector ca
  · obtain ⟨ca, rfl⟩ := ha
    rw [encounter?_collector hc, hl, ForwardEngine.arrival?, hst.arrival?_of_not_closed hw]
    split
    · next hg =>
        obtain ⟨_, _, task, _, _, _, -, rfl, ht⟩ := ForwardStage.givesUp_iff.mp hg
        simp [Collector.event?, ht, Collector.taskEvent?, repliesInTime]
    · rw [Option.bind_some]
      cases (s.collector.event? ca).bind (ReplyEvent.decides? id) <;> rfl
  · rw [repliesInTime_call fun ca heq => ha ⟨ca, heq⟩]
    cases a with
    | collector ca => exact absurd ⟨ca, rfl⟩ ha
    | _ => rfl

/-- A call whose wait collects listens. -/
theorem ForwardCourse.listens
    (hs : ForwardCourse id timeout number units arrived s.collector w stage)
    (hw : w.status = .collecting) : stage.listens? = some id := by
  cases hs with
  | sending _ _ _ _ | sent _ _ _ | waiting _ _ _ => rfl
  | leaving hw' _ | removing _ hw' _ | ended hw' _ => simp [hw] at hw'

/-- A call that listens waits, when its wait is closed. -/
theorem ForwardCourse.waiting_of_closed
    (hs : ForwardCourse id timeout number units arrived s.collector w stage)
    (hl : stage.listens? ≠ none) (hw : w.status = .closed) :
    ∃ task, stage = .waiting id (units.map (·.dataSource)) task := by
  cases hs with
  | waiting _ _ _ => exact ⟨_, rfl⟩
  | sending _ _ hin _ | sent _ hin _ => simp [InTime, hw] at hin
  | leaving _ _ | removing _ _ _ | ended _ _ => exact absurd rfl hl

/-- A call that waits has listened before. -/
theorem ForwardEngine.Moves.listened (hm : s.Moves a s') {c' : ForwardCall} {sources : List String}
    {task : Nat} (hc : s.calls[call]? = some ⟨units, stage⟩) (hc' : s'.calls[call]? = some c')
    (hs : c'.stage = .waiting id sources task) :
    stage = .sent id sources ∨ stage = .waiting id sources task := by
  cases hm with
  | begin _ hcalls _ =>
      rw [hcalls, getElem?_append_of_eq_some hc] at hc'
      cases hc'
      exact .inr hs
  | collector _ hcalls _ =>
      rw [hcalls, hc] at hc'
      cases hc'
      exact .inr hs
  | call hck hm hcalls _ =>
      rcases Tickets.call_of_set hcalls hc' with ⟨rfl, rfl⟩ | ⟨-, hold⟩
      · obtain rfl := Option.some.inj (hc.symm.trans hck)
        dsimp only at hm hs
        subst hs
        cases hm
        exact .inl rfl
      · rw [hc] at hold
        cases hold
        exact .inr hs

/-- **Only the deadline of a call closes its wait** while it listens. -/
theorem ForwardEngine.Moves.deadline_of_closed (hm : s.Moves a s')
    (hc : s.calls[call]? = some ⟨units, stage⟩) {c' : ForwardCall}
    (hc' : s'.calls[call]? = some c')
    (hst : Standing id number units.length arrived s.collector w)
    (hs : ForwardCourse id timeout number units arrived s.collector w stage)
    (hw' : s'.collector.registry.wait? number = some w') (hne : w.status ≠ .closed)
    (hcl : w'.status = .closed) (hl : c'.stage.listens? ≠ none) :
    s.encounter? call a = some .deadline := by
  obtain ⟨task, t, rfl, ht, hcloses⟩ := hm.closes?_of_closed hst.wait hw' hne hcl
  obtain ⟨hn, ho⟩ := RegistryTask.number?_of_closes? hcloses
  have hid : t.id = id := (hst.belongs.number_iff ht hn).mp rfl
  have hstage : c'.stage = stage := by
    cases hm with
    | begin ha _ _ => cases ha
    | @call _ ck _ _ _ hm _ _ =>
        generalize ck.stage = before at hm
        cases hm
    | collector _ hcalls _ =>
        rw [hcalls, hc] at hc'
        cases hc'
        rfl
  cases hs with
  | sending _ _ _ hserve | sent _ _ hserve => cases hserve task t ht ho hid
  | leaving _ _ | removing _ _ _ | ended _ _ => exact absurd (hstage ▸ rfl) hl
  | @waiting own stage' ht' hs hserve =>
      obtain rfl := Option.some.inj (hserve task t ht ho hid)
      obtain rfl := Option.some.inj (ht.symm.trans ht')
      cases hs with
      | waiting hstages _ =>
          rcases hstages with rfl | rfl | rfl | rfl
          · cases hcloses
          · cases hcloses
          · cases hcloses
          · exact (encounter?_eq_deadline hc).mpr
              ⟨_, rfl, ForwardStage.givesUp_iff.mpr ⟨_, _, _, _, _, _, rfl, rfl, ht⟩⟩
      | closing hres =>
          cases hres with
          | late hw => exact absurd hw hne
          | replies hw => simp [hm.stays_delivered hst.wait hw' hw] at hcl
      | finding _ _ | claiming _ _ | lastLook _ | taken _ | missed _ | removing _ | ended _ =>
          cases hcloses

/-- Behind the deadline of a call its wait collects no more. -/
theorem ForwardEngine.Moves.settled_of_deadline (hstep : s.step a = some s')
    (hc : s.calls[call]? = some ⟨units, stage⟩)
    (hst : Standing id number units.length arrived s.collector w)
    (hs : ForwardCourse id timeout number units arrived s.collector w stage)
    (hw' : s'.collector.registry.wait? number = some w')
    (hd : s.encounter? call a = some .deadline) : w'.status ≠ .collecting := by
  obtain ⟨ca, rfl, hg⟩ := (encounter?_eq_deadline hc).mp hd
  obtain ⟨id', sources, task, id'', timeout', m, rfl, rfl, ht⟩ := ForwardStage.givesUp_iff.mp hg
  obtain ⟨col, hcol, h⟩ := Option.bind_eq_some_iff.mp hstep
  obtain rfl := Option.some.inj h
  obtain ⟨t', -, hm⟩ := Collector.taskMoves_of_step hcol ht
  cases hs with
  | waiting ht' _ _ =>
      cases Option.some.inj (ht.symm.trans ht')
      obtain rfl : m = number := (hst.belongs.number_iff ht rfl).mpr rfl
      obtain ⟨v, hv, hne⟩ := hm.closed rfl hst.wait
      exact Option.some.inj (hv.symm.trans hw') ▸ hne

end

/-- How what a call has met goes with what has arrived at its wait. -/
structure InStep (number n call : Nat) (es : List Encounter) (arrived : List ReplyFrame)
    (s : ForwardEngine) : Prop where
  /-- The first replies in time are those that have arrived first. -/
  take_eq : (repliesInTime es).take n = arrived.take n
  /-- As long as the call listens, nothing but its deadline has closed its wait. -/
  closed : ∀ {w c}, s.collector.registry.wait? number = some w → w.status = .closed →
    s.calls[call]? = some c → c.stage.listens? ≠ none → .deadline ∈ es
  /-- Behind the deadline the wait does not collect. -/
  late : ∀ {w}, .deadline ∈ es → s.collector.registry.wait? number = some w →
    w.status ≠ .collecting

/-- **What a call meets and what arrives at its wait stay in step**, whoever moves. -/
theorem InStep.move {s s' : ForwardEngine} {a : ForwardAction} {call number : Nat}
    {units : List PhysicalUnit} {id : CorrelationId} {timeout : Duration}
    {arrived arrived' : List ReplyFrame} {stage stage' : ForwardStage} {w w' : Wait ReplyFrame}
    {es : List Encounter} (h : InStep number units.length call es arrived s)
    (hstep : s.step a = some s') (hc : s.calls[call]? = some ⟨units, stage⟩)
    (hst : Standing id number units.length arrived s.collector w)
    (hs : ForwardCourse id timeout number units arrived s.collector w stage)
    (hc' : s'.calls[call]? = some ⟨units, stage'⟩)
    (hst' : Standing id number units.length arrived' s'.collector w')
    (hs' : ForwardCourse id timeout number units arrived' s'.collector w' stage') :
    InStep number units.length call (es ++ (s.encounter? call a).toList)
      (arrived ++ (s.arrival? id number a).toList) s' := by
  have hm := (ForwardEngine.moves_of_step hstep).1
  have hbefore := h.take_eq
  refine ⟨?_, ?_, ?_⟩
  · by_cases hcol : w.status = .collecting
    · have hd : .deadline ∉ es := fun hd => h.late hd hst.wait hcol
      rw [repliesInTime_append hd,
        encounter?_arrival hc (hs.listens hcol) hst (by simp [hcol])]
      exact take_append_congr hbefore _
    · have harrived : (arrived ++ (s.arrival? id number a).toList).take units.length =
          arrived.take units.length := by
        cases a with
        | collector ca => exact hst.take_concat hcol
        | _ => exact congrArg _ (List.append_nil arrived)
      rw [harrived, ← hbefore]
      by_cases hclosed : w.status = .closed
      · by_cases hl : stage.listens? = none
        · rw [repliesInTime_append_of_quiet es (encounter?_quiet hc hl)]
        · rw [repliesInTime_append_of_deadline (h.closed hst.wait hclosed hc hl)]
      · have hle : units.length ≤ (repliesInTime es).length := by
          have hsize := hst.size_le (by cases hs : w.status <;> simp_all [Wait.isComplete])
          have := congrArg List.length hbefore
          simp only [List.length_take] at this
          omega
        obtain ⟨more, hmore⟩ := repliesInTime_prefix es (s.encounter? call a).toList
        rw [← hmore, List.take_append_of_le_length hle]
  · intro v c hv hcl hc'' hl
    obtain rfl := Option.some.inj (hst'.wait.symm.trans hv)
    obtain rfl := Option.some.inj (hc'.symm.trans hc'')
    by_cases hclosed : w.status = .closed
    · obtain ⟨task, rfl⟩ := hs'.waiting_of_closed hl hcl
      refine List.mem_append_left _ (h.closed hst.wait hclosed hc ?_)
      rcases hm.listened hc hc' rfl with rfl | rfl <;> simp [ForwardStage.listens?]
    · have := hm.deadline_of_closed hc hc' hst hs hv hclosed hcl hl
      exact List.mem_append_right _ (by simp [this])
  · intro v hd hv
    rcases List.mem_append.mp hd with hd | hd
    · exact hm.stays_settled hst.wait hv (h.late hd hst.wait)
    · exact ForwardEngine.Moves.settled_of_deadline hstep hc hst hs hv (by simpa using hd)

end ScatterGather
