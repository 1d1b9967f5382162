import ScatterGather.Proofs.Connection.Sending

/-!
# What becomes of a call that is given up

The main result about giving up, `given_up`: the group that a call runs itself is given up with it,
and so is the acquisition of its connections. Its tasks are not: nobody tells them to stop, and each
may send all that it has left of its own group, and no more (`Aftermath`). So giving a call up stops
its sending exactly when no task of it has anything left to send, though a call that fails stops it
always (`StatementsSent.after`).
-/

namespace ScatterGather

/-- What a runner sends comes off what its group has left. -/
theorem GroupRun.Moves.rest_eq {σ : ConnectionStrategy} {who : Runner} {run run' : GroupRun}
    {a : ConnectionAction} {sent : Option PhysicalUnit}
    (h : run.Moves σ who a sent (.goesOn run')) : sent.toList ++ run'.rest = run.rest := by
  cases h with
  | sends _ hr => exact hr.symm
  | keeps _ _ => rfl

namespace Connection

/-! ### Who is told to stop -/

/-- Only the tasks of calls that have failed have been told to stop. -/
def StopsOnFailure (s : ConnectionEngine) : Prop :=
  ∀ (n : Nat) (t : Worker GroupTask), s.workers.tasks[n]? = some t → t.aborting = true →
    ∃ e, s.calls[t.body.call]? = some (.ended (.error e))

section

variable {s s' : ConnectionEngine} {a : ConnectionAction} {call n : Nat} {t t' : Worker GroupTask}

/-- A call that moves a task has failed. -/
theorem fails_of_task? {stage stage' : ConnectionStage}
    {events : List (DispatchEvent SentStatement)} {actions : List (WorkerAction GroupTask)}
    (h : stage.Moves s call a events actions stage') {x : WorkerAction GroupTask}
    (hx : x ∈ actions) (hn : x.task? = some n) : ∃ e, stage' = .ended (.error e) := by
  cases h with
  | fails _ | collectedFailure _ _ => exact ⟨_, rfl⟩
  | launched _ _ =>
      obtain ⟨g, -, rfl⟩ := List.mem_map.mp hx
      cases hn
  | _ => cases hx

/-- What a call spawns has not been told to stop. -/
theorem aborting_of_spawned {stage stage' : ConnectionStage}
    {events : List (DispatchEvent SentStatement)} {actions : List (WorkerAction GroupTask)}
    {w : Workers GroupTask} (h : stage.Moves s call a events actions stage')
    (hw : s.workers.run actions = some w) (hnew : s.workers.tasks[n]? = none)
    (ht' : w.tasks[n]? = some t') : t'.aborting = false := by
  have hlen := List.getElem?_eq_none_iff.mp hnew
  cases h with
  | launched _ _ =>
      rw [tasks_of_spawns hw, List.getElem?_append_right hlen] at ht'
      obtain ⟨g, -, rfl⟩ := List.mem_map.mp (List.mem_of_getElem? ht')
      rfl
  | _ =>
      have hlt := (List.getElem?_eq_some_iff.mp ht').1
      rw [Workers.length_of_run hw (by simp)] at hlt
      exact absurd hlt (Nat.not_lt_of_le hlen)

/-- A task that is told to stop in a step is one of a call that fails in it. -/
theorem told_to_stop (ho : s.Owned) (hm : s.Moves a s') (ht' : s'.workers.tasks[n]? = some t')
    (ha : t'.aborting = true) :
    (∃ t, s.workers.tasks[n]? = some t ∧ t.aborting = true ∧ t'.body.call = t.body.call) ∨
      ∃ e, s'.calls[t'.body.call]? = some (.ended (.error e)) := by
  cases hm with
  | begin _ _ _ hw => exact .inl ⟨t', hw ▸ ht', ha, rfl⟩
  | @call k stage stage' events actions hc hm hcalls _ hw =>
      cases ht : s.workers.tasks[n]? with
      | none => cases ha.symm.trans (aborting_of_spawned hm hw ht ht')
      | some t =>
          by_cases hmoved : ∃ x ∈ actions, x.task? = some n
          · obtain ⟨x, hx, hn⟩ := hmoved
            obtain ⟨e, rfl⟩ := fails_of_task? hm hx hn
            obtain ⟨u, hu, rfl⟩ := ho.mine _ _ _ hc (hm.task_mem x hx n hn)
            obtain rfl := Option.some.inj (ht.symm.trans hu)
            have hcall : t'.body.call = t.body.call := by
              rcases hm.task_behind hw ht with h | h <;>
                exact Option.some.inj (ht'.symm.trans h) ▸ rfl
            refine .inr ⟨e, ?_⟩
            rw [hcall, hcalls, List.getElem?_set_self (List.getElem?_eq_some_iff.mp hc).1]
          · have hkept := Workers.task_kept_of_run hw ht fun x hx hn => hmoved ⟨x, hx, hn⟩
            obtain rfl := Option.some.inj (ht'.symm.trans hkept)
            exact .inl ⟨_, rfl, ha, rfl⟩
  | @task m u _ _ hu hm _ _ hw =>
      obtain ⟨u', htasks, hs⟩ := hm.steps hu hw
      by_cases hmn : m = n
      · subst hmn
        rw [htasks, List.getElem?_set_self (List.getElem?_eq_some_iff.mp hu).1] at ht'
        obtain rfl := Option.some.inj ht'
        exact .inl ⟨u, hu, hs.aborting_eq.symm.trans ha, hs.call_eq⟩
      · rw [htasks, List.getElem?_set_ne hmn] at ht'
        exact .inl ⟨t', ht', ha, rfl⟩

theorem stopsOnFailure_new (settings : ConnectionSettings) (pool : Pool) :
    StopsOnFailure (.new settings pool) := by
  rintro n t ⟨⟩

/-- **Only the tasks of calls that have failed are told to stop**, in every step. -/
theorem StopsOnFailure.step (h : StopsOnFailure s) (ho : s.Owned) (hm : s.Moves a s') :
    StopsOnFailure s' := by
  intro n t' ht' ha
  rcases told_to_stop ho hm ht' ha with ⟨t, ht, ha, hcall⟩ | hfailed
  · obtain ⟨e, hc⟩ := h n t ht ha
    exact ⟨e, hcall ▸ isOver_kept hm hc rfl⟩
  · exact hfailed

/-- The tasks of a call that has been given up are never told to stop. -/
theorem StopsOnFailure.aborting_of_dropped (h : StopsOnFailure s)
    (hc : s.calls[call]? = some .dropped) (ht : s.workers.tasks[n]? = some t)
    (hcall : t.body.call = call) : t.aborting = false := by
  cases ha : t.aborting with
  | false => rfl
  | true =>
      obtain ⟨e, hc'⟩ := h n t ht ha
      cases (hcall ▸ hc).symm.trans hc'

/-! ### Giving up -/

/-- A step by which a call is given up is one of that call; it sends nothing and tells no task to
stop. -/
theorem moves_of_drop {stage stage' : ConnectionStage} {k : Nat}
    {events : List (DispatchEvent SentStatement)} {actions : List (WorkerAction GroupTask)}
    (h : stage.Moves s k (.drop call) events actions stage') :
    k = call ∧ stage' = .dropped ∧ actions = [] ∧ ∀ source, unitsOn call source events = [] := by
  cases h with
  | droppedAcquiring => exact ⟨rfl, rfl, rfl, fun source => unitsOn_releases ..⟩
  | droppedRunning | droppedCollecting => exact ⟨rfl, rfl, rfl, fun _ => rfl⟩
  | runs h | completes h | fails h | breaks h => cases h

/-- Giving a call up sends nothing and leaves the tasks as they are. -/
theorem dropped_of_step (hs : s.step (.drop call) = some s') :
    s'.calls[call]? = some .dropped ∧ s'.workers = s.workers ∧
      ∀ source, unitsOn call source s'.events = unitsOn call source s.events := by
  cases (ConnectionEngine.moves_of_step hs).1 with
  | begin ha _ _ _ => cases ha
  | task _ hm _ _ _ =>
      cases hm with
      | runs _ _ h | ends _ _ h => cases h
  | call hc hm hcalls hev hw =>
      obtain ⟨rfl, rfl, rfl, hquiet⟩ := moves_of_drop hm
      refine ⟨?_, (Option.some.inj hw).symm, fun source => ?_⟩
      · rw [hcalls, List.getElem?_set_self (List.getElem?_eq_some_iff.mp hc).1]
      · rw [hev, unitsOn_append, hquiet, List.append_nil]

/-- What has become of a call that was given up where the engine stood at `s`. -/
structure Aftermath (call : Nat) (s u : ConnectionEngine) : Prop where
  dropped : u.calls[call]? = some .dropped
  /-- Its connections are with tasks that had them then, and what these have sent and what they
  have left is together what they had left then. -/
  held : ∀ who now, holding? u call who = some now → ∃ n run, who = .task n ∧
    holding? s call who = some run ∧ now.dataSource = run.dataSource ∧
    unitsOn call run.dataSource u.events ++ now.rest =
      unitsOn call run.dataSource s.events ++ run.rest
  /-- Where no task had the connection nothing has been sent. -/
  quiet : ∀ source, (∀ n run, holding? s call (.task n) = some run → run.dataSource ≠ source) →
    unitsOn call source u.events = unitsOn call source s.events
  /-- Where a task had it no more has been sent than it had left. -/
  carried : ∀ n run, holding? s call (.task n) = some run → ∃ sent, sent <+: run.rest ∧
    unitsOn call run.dataSource u.events = unitsOn call run.dataSource s.events ++ sent

/-- Each connection of a call is with one runner. -/
def OneRunner (s : ConnectionEngine) (call : Nat) : Prop :=
  ∀ who who' run run', holding? s call who = some run → holding? s call who' = some run' →
    run.dataSource = run'.dataSource → who = who'

/-- When a call has just been given up nothing more has been sent. -/
theorem aftermath_of_drop (hs : s.step (.drop call) = some s') : Aftermath call s s' := by
  obtain ⟨hc', hw, hunits⟩ := dropped_of_step hs
  refine ⟨hc', fun who now hnow => ?_, fun source _ => hunits source, fun n run _ =>
    ⟨[], List.nil_prefix, by rw [hunits, List.append_nil]⟩⟩
  cases who with
  | call n => simp [holding?, hc', ConnectionStage.run?] at hnow
  | task n => exact ⟨n, now, rfl, by simpa [holding?, hw] using hnow, rfl, by rw [hunits]⟩

namespace Aftermath

variable {u u' : ConnectionEngine}

/-- A step by which nothing is sent for the call, and by which nobody gets a connection. -/
theorem silent (h : Aftermath call s u) (hm : u.Moves a u')
    (hunits : ∀ source, unitsOn call source u'.events = unitsOn call source u.events)
    (hheld : ∀ who now, holding? u' call who = some now → holding? u call who = some now) :
    Aftermath call s u' := by
  refine ⟨isOver_kept hm h.dropped rfl, fun who now hnow => ?_, fun source hnone => ?_,
    fun n run hrun => ?_⟩
  · simpa only [hunits] using h.held who now (hheld who now hnow)
  · rw [hunits, h.quiet source hnone]
  · simpa only [hunits] using h.carried n run hrun

/-- A task that goes on with its group sends the next of what it had left, or nothing. -/
theorem goesOn (h : Aftermath call s u) (hone : OneRunner s call) (hm : u.Moves a u')
    {who : Runner} {now now' : GroupRun} {sent : Option PhysicalUnit}
    (hnow : holding? u call who = some now)
    (hgoes : now.Moves u.settings.strategy who a sent (.goesOn now'))
    (hev : u'.events = u.events ++
      sent.toList.map fun v => .sent call now.dataSource (u.statement v))
    (hheld : holding? u' call = Function.update (holding? u call) who (some now')) :
    Aftermath call s u' := by
  obtain ⟨n, run, rfl, hrun, hsource, hsplit⟩ := h.held who now hnow
  have hself : unitsOn call run.dataSource u'.events =
      unitsOn call run.dataSource u.events ++ sent.toList := by
    rw [hev, unitsOn_append, unitsOn_sent, if_pos ⟨rfl, hsource⟩]
  have hother : ∀ source, run.dataSource ≠ source →
      unitsOn call source u'.events = unitsOn call source u.events := by
    intro source hne
    rw [hev, unitsOn_append, unitsOn_sent, if_neg fun heq => hne (hsource ▸ heq.2),
      List.append_nil]
  have hleft : unitsOn call run.dataSource u'.events ++ now'.rest =
      unitsOn call run.dataSource s.events ++ run.rest := by
    rw [hself, List.append_assoc, hgoes.rest_eq, hsplit]
  refine ⟨isOver_kept hm h.dropped rfl, fun who' now'' hnow'' => ?_, fun source hnone => ?_,
    fun m run' hrun' => ?_⟩
  · by_cases hwho : who' = .task n
    · rw [hheld, hwho, Function.update_self] at hnow''
      obtain rfl := Option.some.inj hnow''
      exact ⟨n, run, hwho, hwho ▸ hrun, hgoes.dataSource_eq.trans hsource, hleft⟩
    · rw [hheld, Function.update_of_ne hwho] at hnow''
      obtain ⟨m, run', rfl, hrun', hsource', hsplit'⟩ := h.held who' now'' hnow''
      refine ⟨m, run', rfl, hrun', hsource', ?_⟩
      rw [hother _ fun heq => hwho (hone _ _ _ _ hrun' hrun heq.symm), hsplit']
  · rw [hother source (hnone n run hrun), h.quiet source hnone]
  · obtain ⟨before, hbefore, hunits⟩ := h.carried m run' hrun'
    by_cases heq : run.dataSource = run'.dataSource
    · obtain rfl := Runner.task.inj (hone _ _ _ _ hrun hrun' heq)
      obtain rfl := Option.some.inj (hrun.symm.trans hrun')
      have hcut : unitsOn call run.dataSource s.events ++
          (before ++ sent.toList ++ now'.rest) =
            unitsOn call run.dataSource s.events ++ run.rest := by
        rw [← hleft, hself, hunits]
        simp only [List.append_assoc]
      refine ⟨before ++ sent.toList, ⟨now'.rest, List.append_cancel_left hcut⟩, ?_⟩
      rw [hself, hunits, List.append_assoc]
    · exact ⟨before, hbefore, by rw [hother _ heq, hunits]⟩

/-- **Every step keeps to what was left when the call was given up.** -/
theorem step (h : Aftermath call s u) (hone : OneRunner s call) (hm : u.Moves a u') :
    Aftermath call s u' := by
  have released : ∀ {who} {source : String},
      u'.events = u.events ++ [.released call source] →
      holding? u' call = Function.update (holding? u call) who none → Aftermath call s u' := by
    intro who source hev hheld
    refine h.silent hm (fun source => by rw [hev, unitsOn_append]; exact List.append_nil _) ?_
    intro who' now hnow
    rw [hheld] at hnow
    by_cases hwho : who' = who
    · rw [hwho, Function.update_self] at hnow
      cases hnow
    · rwa [Function.update_of_ne hwho] at hnow
  cases turn_of_moves hm call with
  | others _ hev hothers hheld _ =>
      refine h.silent hm (fun source => ?_) fun who now hnow => hheld ▸ hnow
      simp only [unitsOn_eq, hev, recordedBy_append, recordedBy_others hothers, List.append_nil]
  | acquires hc _ _ _ _ _ => cases h.dropped.symm.trans hc
  | ends _ _ hev hheld _ | stops _ hev hheld _ => exact released hev hheld
  | goesOn hnow hgoes hev hheld _ => exact h.goesOn hone hm hnow hgoes hev hheld

/-- What was left when the call was given up is kept to along every run. -/
theorem run (h : Aftermath call s u) (hone : OneRunner s call) {more : List ConnectionAction}
    (hrun : u.run more = some u') : Aftermath call s u' :=
  foldlM_invariant (P := Aftermath call s)
    (fun hP hs => hP.step hone (ConnectionEngine.moves_of_step hs).1) h hrun

end Aftermath

/-! ### What is left is sent -/

/-- What has happened stays so. -/
theorem isPrefix_events (hm : s.Moves a s') : s.events <+: s'.events := by
  cases hm with
  | begin _ _ hev _ => exact hev ▸ List.prefix_refl _
  | call _ _ _ hev _ | task _ _ _ hev _ => exact hev ▸ List.prefix_append _ _

/-- What has happened stays so along every run. -/
theorem isPrefix_events_of_run {more : List ConnectionAction} (hrun : s.run more = some s') :
    s.events <+: s'.events :=
  foldlM_invariant (P := fun u => s.events <+: u.events)
    (fun hP hs => hP.trans (isPrefix_events (ConnectionEngine.moves_of_step hs).1))
    (List.prefix_refl _) hrun

/-- A task has the connection of a call as long as it has not ended. -/
theorem holding?_task_eq_some {run : GroupRun} : holding? s call (.task n) = some run ↔
    ∃ t, s.workers.tasks[n]? = some t ∧ t.body.call = call ∧ t.stage.hasEnded = false ∧
      t.body.run = run := by
  simp [holding?, GroupTask.runFor?, Option.bind_eq_some_iff, and_assoc]

/-- Every connection answers every statement, and none fails. -/
def neverFails : ConnectionAnswers := fun _ _ _ => .ok (.update ⟨0, 0⟩)

/-- A group whose unit is answered without a failure does not fail. -/
theorem not_failed_of_neverFails {e : ExecutionError} (ht : s.workers.tasks[n]? = some t)
    (hs : t.stage = .running) (ha : t.aborting = false)
    (hm : t.body.run.Moves s.settings.strategy (.task n) a none (.ends (.failed e))) :
    ¬AnswersAs neverFails t.body.call s a := by
  intro hans
  cases hm with
  | @fails u r _ hu hk =>
      have hexchange : exchange? s (.answer (.task n) (.result r)) = some ⟨t.body.call,
          t.body.run.dataSource, (unitsOn t.body.call t.body.run.dataSource s.events).dropLast, u,
          .result r⟩ := by
        rw [exchange?, group?_task ht hs ha]
        simp [hu]
      obtain rfl : r = .ok (.update ⟨0, 0⟩) :=
        ConnectionAnswer.result.inj (hans _ hexchange rfl)
      cases hk

/-- Whoever had a connection of the call still has it, or has sent all that it had left. -/
def InHand (call : Nat) (s u : ConnectionEngine) : Prop :=
  ∀ n run, holding? s call (.task n) = some run → (∃ now, holding? u call (.task n) = some now) ∨
    unitsOn call run.dataSource u.events = unitsOn call run.dataSource s.events ++ run.rest

/-- What has been sent in full stays so. -/
theorem Aftermath.full_kept {u u' : ConnectionEngine} (h' : Aftermath call s u') {run : GroupRun}
    (hrun : holding? s call (.task n) = some run) (hgrow : u.events <+: u'.events)
    (hfull : unitsOn call run.dataSource u.events =
      unitsOn call run.dataSource s.events ++ run.rest) :
    unitsOn call run.dataSource u'.events =
      unitsOn call run.dataSource s.events ++ run.rest := by
  obtain ⟨sent, hsent, hunits⟩ := h'.carried n run hrun
  have hmore : unitsOn call run.dataSource u.events <+: unitsOn call run.dataSource u'.events :=
    hgrow.filterMap _
  rw [hfull, hunits, List.prefix_append_right_inj] at hmore
  rw [hunits, hsent.eq_of_length_le hmore.length_le]

/-- As long as calls go on and no answer fails, everything stays in hand. -/
theorem InHand.step {u u' : ConnectionEngine} (h : InHand call s u) (hu : Aftermath call s u)
    (hu' : Aftermath call s u') (hstops : StopsOnFailure u) (hstops' : StopsOnFailure u')
    (hm : u.Moves a u') (ha : GoesOn a) (hans : AnswersAs neverFails call u a) :
    InHand call s u' := by
  intro n run hrun
  have hkept := hu'.full_kept hrun (isPrefix_events hm)
  rcases h n run hrun with ⟨now, hnow⟩ | hfull
  case inr => exact .inr (hkept hfull)
  obtain ⟨t, ht, rfl, he, rfl⟩ := holding?_task_eq_some.mp hnow
  obtain ⟨t', ht', hcases⟩ := hm.task_cases ht
  have still : t'.body.call = t.body.call → t'.stage.hasEnded = false →
      ∃ now, holding? u' t.body.call (.task n) = some now := fun hcall he' =>
    ⟨t'.body.run, holding?_task_eq_some.mpr ⟨t', ht', hcall, he', rfl⟩⟩
  rcases hcases with rfl | rfl | ⟨_, hs⟩
  · exact .inl (still rfl he)
  · cases hstops'.aborting_of_dropped hu'.dropped ht' rfl
  · cases hs with
    | runs hs _ _ => exact .inl (still rfl (by rw [hs]; rfl))
    | requested _ _ | started _ _ _ => exact .inl (still rfl rfl)
    | reaped _ haborting =>
        cases haborting.symm.trans (hstops.aborting_of_dropped hu.dropped ht rfl)
    | @ends how hs hnot hends =>
        cases how with
        | failed e => exact absurd hans (not_failed_of_neverFails ht hs hnot hends)
        | panicked message =>
            cases hends with
            | panics _ => cases ha
        | completed =>
            cases hends with
            | completes _ hrest =>
                obtain ⟨m, run', hm', hrun', -, hsplit⟩ := hu.held _ _ hnow
                obtain rfl := Option.some.inj (hrun.symm.trans hrun')
                rw [hrest, List.append_nil] at hsplit
                exact .inr (hkept hsplit)

/-- **All that was left can be sent**, by steps by which calls go on. -/
theorem exists_all_sent {settings : ConnectionSettings} {u : ConnectionEngine}
    (h : Aftermath call s u) (hone : OneRunner s call) (hhand : InHand call s u)
    (hR : Reached settings u) (hstops : StopsOnFailure u) :
    ∃ more u', u.run more = some u' ∧ (∀ a ∈ more, GoesOn a) ∧
      ∀ n run, holding? s call (.task n) = some run → unitsOn call run.dataSource u'.events =
        unitsOn call run.dataSource s.events ++ run.rest := by
  -- By induction on what is left to do: as long as a task has not ended something can happen.
  induction hn : work u using Nat.strongRecOn generalizing u with
  | _ m ih =>
      subst hn
      by_cases htasks : ∃ (n : Nat) (t : Worker GroupTask), u.workers.tasks[n]? = some t ∧
          t.stage.hasEnded = false
      case neg =>
        refine ⟨[], u, rfl, by simp, fun n run hrun => ?_⟩
        rcases hhand n run hrun with ⟨now, hnow⟩ | hfull
        · obtain ⟨t, ht, -, he, -⟩ := holding?_task_eq_some.mp hnow
          exact absurd ⟨n, t, ht, he⟩ htasks
        · exact hfull
      obtain ⟨n, t, ht, he⟩ := htasks
      obtain ⟨a, u₁, hu₁, ha, hans⟩ := canStep_of_task neverFails hR.workers hR.size_pos ht he
      have hm := (ConnectionEngine.moves_of_step hu₁).1
      have hlt : work u₁ < work u := work_lt hm fun route keys heq => by
        rw [heq] at ha
        cases ha
      have h₁ := h.step hone hm
      have hstops₁ := hstops.step hR.owned hm
      obtain ⟨more, u', hrun, hmore, hsent⟩ := ih (work u₁) hlt h₁
        (hhand.step h h₁ hstops hstops₁ hm ha (hans call)) (hR.step hu₁) hstops₁ rfl
      exact ⟨a :: more, u', foldlM_cons_eq_some.mpr ⟨u₁, hu₁, hrun⟩,
        List.forall_mem_cons.mpr ⟨ha, hmore⟩, hsent⟩

end

end Connection

/-! ### Along a run -/

namespace ConnectionEngine.CallRun

open Connection

variable {settings : ConnectionSettings} {size : Nat} {route : Route} {keys : Bool} {call : Nat}
  {before after : List ConnectionAction} {s₀ s : ConnectionEngine}

/-- Only the tasks of calls that have failed have been told to stop. -/
theorem stopsOnFailure (h : CallRun settings size route keys call before after s₀ s) :
    StopsOnFailure s := by
  have hrun : (new settings (.ofSize size)).run (before ++ .begin route keys :: after) = some s :=
    foldlM_append_eq_some.mpr ⟨s₀, h.before_run, h.after_run⟩
  refine (foldlM_invariant (P := fun s => Reached settings s ∧ StopsOnFailure s)
    ?_ ⟨reached_new settings size, stopsOnFailure_new _ _⟩ hrun).2
  exact fun hP hs => ⟨hP.1.step hs, hP.2.step hP.1.owned (moves_of_step hs).1⟩

/-- Each connection of the call is with one runner. -/
theorem oneRunner (h : CallRun settings size route keys call before after s₀ s) :
    OneRunner s call := by
  intro who who' run run' hrun hrun' heq
  obtain ⟨runner, hl⟩ := h.lifecycle.1.of_holding hrun
  rw [(hl.holds _ _ hrun).2.1, (hl.holds _ _ hrun').2.1, heq]

end ConnectionEngine.CallRun

namespace Connection

/-! ### The main result -/

/-- Nothing more is sent for a call, whatever happens. -/
def Silenced (call : Nat) (s : ConnectionEngine) : Prop :=
  ∀ more s', s.run more = some s' → sentBy call s'.events = sentBy call s.events

/-- What becomes of a call that is given up where the engine stands at `s`, and what of the
statements that it has not sent yet. -/
structure GivenUp (call : Nat) (s s₁ : ConnectionEngine) : Prop where
  /-- Giving it up sends nothing. -/
  sent : sentBy call s₁.events = sentBy call s.events
  /-- A call that still acquires connections sends nothing ever. -/
  acquiring : ∀ acq, s.calls[call]? = some (.acquiring acq) →
    sentBy call s.events = [] ∧ Silenced call s₁
  /-- The group that it runs itself sends nothing more. -/
  own : ∀ run tasks, s.calls[call]? = some (.running run tasks) → ∀ more s',
    s₁.run more = some s' →
    unitsOn call run.dataSource s'.events = unitsOn call run.dataSource s.events
  /-- Whatever happens, a task sends in turn what it had left of its group, and nobody else sends
  anything. -/
  tasks : ∀ more s', s₁.run more = some s' → Aftermath call s s'
  /-- It can come about that the tasks send all that they had left. -/
  all : ∃ more s', s₁.run more = some s' ∧ (∀ a ∈ more, GoesOn a) ∧
    ∀ n run, holding? s call (.task n) = some run → unitsOn call run.dataSource s'.events =
      unitsOn call run.dataSource s.events ++ run.rest
  /-- So its sending stops when no task has anything left, and only then. -/
  silenced : Silenced call s₁ ↔ ∀ n run, holding? s call (.task n) = some run → run.rest = []

section

variable {settings : ConnectionSettings} {size : Nat} {route : Route} {keys : Bool} {call : Nat}
  {before after : List ConnectionAction} {s₀ s s₁ : ConnectionEngine}

/-- Where no unit more is sent on any connection of a call nothing more is sent for it. -/
theorem sentBy_eq_of_unitsOn {events events' : List (DispatchEvent SentStatement)}
    (hgrow : events <+: events')
    (hunits : ∀ source, unitsOn call source events' = unitsOn call source events) :
    sentBy call events' = sentBy call events := by
  obtain ⟨more, rfl⟩ := hgrow
  rw [sentBy, recordedBy_append, List.append_right_eq_self]
  refine List.eq_nil_iff_forall_not_mem.mpr fun x hx => ?_
  have hnil := hunits x.1
  rw [unitsOn_append, List.append_right_eq_self, unitsOn_eq] at hnil
  exact absurd (List.filterMap_eq_nil_iff.mp hnil x hx) (by simp)

/-- What is sent for a call when its tasks have nothing left. -/
theorem Aftermath.unitsOn_eq {s' : ConnectionEngine} (h : Aftermath call s s')
    (hrest : ∀ n run, holding? s call (.task n) = some run → run.rest = []) (source : String) :
    unitsOn call source s'.events = unitsOn call source s.events := by
  by_cases hnone : ∀ n run, holding? s call (.task n) = some run → run.dataSource ≠ source
  · exact h.quiet source hnone
  · push Not at hnone
    obtain ⟨n, run, hrun, rfl⟩ := hnone
    obtain ⟨sent, hsent, hunits⟩ := h.carried n run hrun
    rw [hrest n run hrun, List.prefix_nil] at hsent
    rw [hunits, hsent, List.append_nil]

/-- **Giving a call up stops what it runs itself, but not its tasks**: each of them sends what it
has left of its group, however much that is. -/
theorem given_up (h : ConnectionEngine.CallRun settings size route keys call before after s₀ s)
    (hdrop : s.step (.drop call) = some s₁) : GivenUp call s s₁ := by
  have hone := h.oneRunner
  have hm := (ConnectionEngine.moves_of_step hdrop).1
  have hdropped := aftermath_of_drop hdrop
  have hafter : ∀ more s', s₁.run more = some s' → Aftermath call s s' := fun more s' hrun =>
    hdropped.run hone hrun
  obtain ⟨-, hworkers, hunits⟩ := dropped_of_step hdrop
  have hhand : InHand call s s₁ := fun n run hrun =>
    .inl ⟨run, by simpa only [holding?, hworkers] using hrun⟩
  have hsent : sentBy call s₁.events = sentBy call s.events :=
    sentBy_eq_of_unitsOn (isPrefix_events hm) hunits
  have hall := exists_all_sent hdropped hone hhand (h.reached.step hdrop)
    (h.stopsOnFailure.step h.reached.owned hm)
  have hsilenced : Silenced call s₁ ↔
      ∀ n run, holding? s call (.task n) = some run → run.rest = [] := by
    constructor
    · intro hsilent n run hrun
      obtain ⟨more, s', hmore, -, hfull⟩ := hall
      have hunits := hfull n run hrun
      rw [unitsOn_eq, hsilent more s' hmore, hsent, ← unitsOn_eq] at hunits
      exact List.append_right_eq_self.mp hunits.symm
    · intro hrest more s' hrun
      rw [hsent]
      exact sentBy_eq_of_unitsOn ((isPrefix_events hm).trans (isPrefix_events_of_run hrun))
        ((hafter more s' hrun).unitsOn_eq hrest)
  constructor
  case sent => exact hsent
  case acquiring =>
    intro acq hc
    obtain ⟨-, hacq, hnone, -⟩ := h.lifecycle.1.of_stage hc
    exact ⟨hacq.sent, hsilenced.mpr fun n run hrun => by cases (hnone _).symm.trans hrun⟩
  case own =>
    intro run tasks hc more s' hrun
    refine (hafter more s' hrun).quiet _ fun n run' hrun' heq => ?_
    have hown := holding?_of_group (group?_call hc)
    cases hone _ _ _ _ hrun' hown heq
  case tasks => exact hafter
  case all => exact hall
  case silenced => exact hsilenced

/-- Both groups have sent their first unit. -/
def bothUnderWay : List ConnectionAction :=
  [.ask 0, .acquired 0 none, .ask 0, .acquired 0 none, .launch 0, .send (.call 0), .request 0,
    .start 0, .send (.task 0)]

/-- Groups of one unit that are under way have nothing left that could be sent. -/
theorem given_up_nothing_left : ∃ s₀ s s₁,
    ConnectionEngine.CallRun ⟨.connectionStrictly, false⟩ 1 twoGroups false 0 [] bothUnderWay
      s₀ s ∧
    s.step (.drop 0) = some s₁ ∧ Silenced 0 s₁ := by
  have h : ConnectionEngine.CallRun ⟨.connectionStrictly, false⟩ 1 twoGroups false 0 []
      bothUnderWay _ _ := ⟨rfl, rfl, rfl⟩
  refine ⟨_, _, _, h, rfl, (given_up h rfl).silenced.mpr ?_⟩
  intro n run hrun
  cases n with
  | zero =>
      obtain rfl := Option.some.inj hrun
      rfl
  | succ n => cases hrun

/-- One statement for a data source and two for another. -/
def oneAndTwo : Route :=
  (((Route.ofStatement (.ofKind .dml)).withUnit "ds_0" "UPDATE 0").withUnit "ds_1"
    "UPDATE 1").withUnit "ds_1" "UPDATE 2"

/-- A task sends its second unit when its call has been given up. -/
theorem sent_behind_drop : ∃ s₀ s s₁ s',
    ConnectionEngine.CallRun ⟨.connectionStrictly, false⟩ 1 oneAndTwo false 0 [] bothUnderWay
      s₀ s ∧
    s.step (.drop 0) = some s₁ ∧
    s₁.run [.answer (.task 0) (.result (.ok (.update ⟨1, 0⟩))), .send (.task 0)] = some s' ∧
    unitsOn 0 "ds_1" s.events = [⟨1, "ds_1", "UPDATE 1", false⟩] ∧
    unitsOn 0 "ds_1" s'.events =
      [⟨1, "ds_1", "UPDATE 1", false⟩, ⟨2, "ds_1", "UPDATE 2", false⟩] :=
  ⟨_, _, _, _, ⟨rfl, rfl, rfl⟩, rfl, rfl, rfl, rfl⟩

end

end Connection

end ScatterGather
