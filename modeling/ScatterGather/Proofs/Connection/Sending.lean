import ScatterGather.Proofs.Connection.SentInTurn

/-!
# What a call sends

The main result about the statements of a call, `statements_sent`: in every run they are sent in
turn on each connection, no unit twice and each with what is asked for it. A call that succeeds has
sent them all, since whatever it has not finished is still outstanding (`Outstanding`), and when a
call has ended nothing more is sent for it, since the tasks that have not ended have been told to
stop (`Halted`).
-/

namespace ScatterGather

namespace Connection

/-! ### What is outstanding -/

/-- The group of a data source is still to be finished, or need not be since the call has failed. -/
inductive Outstanding (s : ConnectionEngine) (call : Nat) (source : String) : Prop where
  | acquiring {acq} (hc : s.calls[call]? = some (.acquiring acq))
  | own {run tasks} (hc : s.calls[call]? = some (.running run tasks))
    (hsource : run.dataSource = source)
  | task {stage n t} (hc : s.calls[call]? = some stage) (hn : n ∈ stage.tasks)
    (ht : s.workers.tasks[n]? = some t) (hsource : t.body.run.dataSource = source)
  | failed {stage} (hc : s.calls[call]? = some stage) (hover : stage.isOver = true)
    (hfail : ∀ r, stage ≠ .ended (.ok r))

/-- A call that succeeds leaves nothing outstanding. -/
theorem not_outstanding {s : ConnectionEngine} {call : Nat} {source : String} {r : Response}
    (hc : s.calls[call]? = some (.ended (.ok r))) : ¬Outstanding s call source := by
  intro h
  cases h with
  | acquiring hc' | own hc' _ => cases hc.symm.trans hc'
  | task hc' hn _ _ =>
      obtain rfl := Option.some.inj (hc.symm.trans hc')
      cases hn
  | failed hc' _ hfail => exact hfail r (Option.some.inj (hc'.symm.trans hc))

section

variable {s s' : ConnectionEngine} {a : ConnectionAction} {call n : Nat} {source : String}
  {stage stage' : ConnectionStage} {t t' : Worker GroupTask} {groups : List UnitGroup}
  {said : List Talk} {outcomes : List Success}
  {events : List (DispatchEvent SentStatement)} {actions : List (WorkerAction GroupTask)}

/-- A call that is launched has the groups of all data sources outstanding. -/
theorem outstanding_of_launched {first : UnitGroup} {others : List UnitGroup}
    (hc' : s'.calls[call]? = some
      (.running (.ofGroup first) (List.range' s.workers.tasks.length others.length)))
    (hw : s.workers.run (others.map fun g => .spawn ⟨call, .ofGroup g, none⟩) = some s'.workers)
    (hsource : source ∈ (first :: others).map (·.dataSource)) : Outstanding s' call source := by
  obtain ⟨g, hg, rfl⟩ := List.mem_map.mp hsource
  rcases List.mem_cons.mp hg with rfl | hg
  · exact .own hc' rfl
  · obtain ⟨i, hi⟩ := List.getElem?_of_mem hg
    have hlt := (List.getElem?_eq_some_iff.mp hi).1
    have ht : s'.workers.tasks[s.workers.tasks.length + i]? =
        some ⟨.fresh, false, ⟨call, .ofGroup g, none⟩⟩ := by
      rw [tasks_of_spawns hw, List.getElem?_append_right (Nat.le_add_right ..),
        Nat.add_sub_cancel_left, List.getElem?_map, hi]
      rfl
    exact .task hc' (List.mem_range'_1.mpr ⟨by omega, by omega⟩) ht rfl

/-- A task whose outcomes are collected has come to them. -/
theorem result_of_collected (h : ConnectionEngine.collected t = some (.ok outcomes)) :
    t.body.result = some (.ok outcomes) := by
  unfold ConnectionEngine.collected at h
  split at h
  · exact h
  · cases h
  · cases h
  · cases h

/-- What is outstanding stays so until it is finished: by the call itself, which says so, or by a
task that has come to its outcomes. -/
theorem Outstanding.step (h : Outstanding s call source) (ho : s.Owned) (hm : s.Moves a s')
    (hl : Lifecycle groups call said s) (hsource : source ∈ groups.map (·.dataSource)) :
    Outstanding s' call source ∨ .finished ∈ saidOn call source (talk? s a).toList ∨
      ∃ (n : Nat) (t : Worker GroupTask) (outcomes : List Success),
        s.workers.tasks[n]? = some t ∧ t.body.call = call ∧ t.body.run.dataSource = source ∧
          t.body.result = some (.ok outcomes) := by
  cases h with
  | failed hc hover hfail => exact .inl (.failed (isOver_kept hm hc hover) hover hfail)
  | @acquiring acq hc =>
      left
      obtain ⟨stage', hc', rfl | ⟨_, _, hmoves, hw⟩⟩ := hm.call_behind hc
      · exact .acquiring hc'
      · cases hmoves with
        | asked _ | granted _ => exact .acquiring hc'
        | refused _ | launchedNothing _ _ | droppedAcquiring => exact .failed hc' rfl nofun
        | launched hcomplete hheld =>
            obtain rfl := ((hl.of_stage hc).1.held_eq hcomplete).symm.trans hheld
            exact outstanding_of_launched hc' hw hsource
  | @own run tasks hc hrun =>
      obtain ⟨stage', hc', rfl | ⟨_, _, hmoves, -⟩⟩ := hm.call_behind hc
      · exact .inl (.own hc' hrun)
      · cases hmoves with
        | runs hm => exact .inl (.own hc' (hm.dataSource_eq.trans hrun))
        | completes hm =>
            right
            left
            rw [talk?_eq (runner?_of_moves hm) (group?_call hc), GroupRun.said?_of_completes hm,
              ← hrun, saidOn_map]
            exact List.mem_singleton_self _
        | fails _ | breaks _ | droppedRunning => exact .inl (.failed hc' rfl nofun)
  | @task stage n t hc hn ht hrun =>
      -- The task is there behind the step, for the same data source.
      obtain ⟨t', ht', hcases⟩ := hm.task_cases ht
      have hrun' : t'.body.run.dataSource = source := by
        rcases hcases with rfl | rfl | ⟨_, hs⟩
        · exact hrun
        · exact hrun
        · exact hs.dataSource_eq.trans hrun
      obtain ⟨stage', hc', rfl | ⟨_, _, hmoves, -⟩⟩ := hm.call_behind hc
      · exact .inl (.task hc' hn ht' hrun')
      · cases hmoves with
        | runs _ | completes _ => exact .inl (.task hc' hn ht' hrun')
        | @collected _ m _ u more hu hcollected =>
            rcases List.mem_cons.mp hn with rfl | hn
            · obtain rfl := Option.some.inj (ht.symm.trans hu)
              obtain ⟨u, hu, hcall⟩ := ho.mine _ _ _ hc hn
              obtain rfl := Option.some.inj (ht.symm.trans hu)
              exact .inr (.inr ⟨_, t, more, ht, hcall, hrun, result_of_collected hcollected⟩)
            · exact .inl (.task hc' hn ht' hrun')
        | fails _ | breaks _ | collectedFailure _ _ | droppedRunning | droppedCollecting =>
            exact .inl (.failed hc' rfl nofun)
        | asked _ | granted _ | refused _ | launched _ _ | launchedNothing _ _ | collectedAll
        | droppedAcquiring => cases hn

/-- What has been finished, and what is outstanding. -/
structure Finishing (sources : List String) (call : Nat) (said : List Talk) (s : ConnectionEngine) :
    Prop where
  results : ∀ (n : Nat) (t : Worker GroupTask) (outcomes : List Success),
    s.workers.tasks[n]? = some t → t.body.call = call → t.body.result = some (.ok outcomes) →
      .finished ∈ saidOn call t.body.run.dataSource said
  finished : ∀ source ∈ sources, .finished ∈ saidOn call source said ∨ Outstanding s call source

/-- A task that comes to its outcomes says that it has finished. -/
theorem finished_of_steps (ht : s.workers.tasks[n]? = some t)
    (hs : GroupTask.Steps s n t a events t') (hresult : t'.body.result = some (.ok outcomes)) :
    t.body.result = some (.ok outcomes) ∨
      .finished ∈ saidOn t.body.call t.body.run.dataSource (talk? s a).toList := by
  cases hs with
  | runs _ _ _ | requested _ _ | started _ _ _ | reaped _ _ => exact .inl hresult
  | @ends how hst ha hm =>
      right
      cases how with
      | completed =>
          rw [talk?_eq (runner?_of_moves hm) (group?_task ht hst ha),
            GroupRun.said?_of_completes hm, saidOn_map]
          exact List.mem_singleton_self _
      | failed _ | panicked _ => cases hresult

/-- **Every group of a call is finished or outstanding**, at any time. -/
theorem Finishing.step (h : Finishing (groups.map (·.dataSource)) call said s) (ho : s.Owned)
    (hl : Lifecycle groups call said s) (hm : s.Moves a s') :
    Finishing (groups.map (·.dataSource)) call (said ++ (talk? s a).toList) s' := by
  have before : ∀ {source}, Said.finished ∈ saidOn call source said →
      Said.finished ∈ saidOn call source (said ++ (talk? s a).toList) := fun hf => by
    rw [saidOn_append]
    exact List.mem_append_left _ hf
  have now : ∀ {source}, Said.finished ∈ saidOn call source (talk? s a).toList →
      Said.finished ∈ saidOn call source (said ++ (talk? s a).toList) := fun hf => by
    rw [saidOn_append]
    exact List.mem_append_right _ hf
  constructor
  · rintro n t' outcomes ht' hcall hresult
    rcases hm.task_origin ht' with ⟨t, ht⟩ | ⟨_, _, _, _, _, _, hnone, -⟩
    · obtain ⟨t'', ht'', hcases⟩ := hm.task_cases ht
      obtain rfl := Option.some.inj (ht'.symm.trans ht'')
      rcases hcases with rfl | rfl | ⟨_, hs⟩
      · exact before (h.results n _ outcomes ht hcall hresult)
      · exact before (h.results n t outcomes ht hcall hresult)
      · rw [hs.dataSource_eq]
        rw [hs.call_eq] at hcall
        rcases finished_of_steps ht hs hresult with hresult | hf
        · exact before (h.results n t outcomes ht hcall hresult)
        · exact now (hcall ▸ hf)
    · cases hnone.symm.trans hresult
  · intro source hsource
    rcases h.finished source hsource with hf | hout
    · exact .inl (before hf)
    · rcases hout.step ho hm hl hsource with hout | hf | ⟨n, t, outcomes, ht, hcall, rfl, hresult⟩
      · exact .inr hout
      · exact .inl (now hf)
      · exact .inl (before (h.results n t outcomes ht hcall hresult))

/-! ### What has been told to stop -/

/-- The tasks of a call that have not ended have been told to stop. -/
def Halted (call : Nat) (s : ConnectionEngine) : Prop :=
  ∀ (n : Nat) (t : Worker GroupTask), s.workers.tasks[n]? = some t → t.body.call = call →
    t.stage.hasEnded = true ∨ t.aborting = true

/-- A task that is told to stop has ended or is told so. -/
theorem halted_of_aborts {w w' : Workers GroupTask} {tasks : List Nat}
    (hw : w.run (tasks.map .abort) = some w') (ht : w.tasks[n]? = some t) (hn : n ∈ tasks) :
    ∃ t', w'.tasks[n]? = some t' ∧ (t'.stage.hasEnded = true ∨ t'.aborting = true) := by
  induction tasks generalizing w t with
  | nil => cases hn
  | cons m tasks ih =>
      obtain ⟨w₁, hw₁, hw⟩ := foldlM_cons_eq_some.mp hw
      by_cases hmn : m = n
      · subst hmn
        have hself : w₁.tasks[m]? =
            some (if t.stage.hasEnded then t else { t with aborting := true }) := by
          cases hw₁
          rw [Workers.abort, Workers.modify_eq ht,
            List.getElem?_set_self (List.getElem?_eq_some_iff.mp ht).1]
        cases he : t.stage.hasEnded with
        | true =>
            rw [he] at hself
            exact (task_of_aborts hw hself).elim (fun h => ⟨_, h, .inl he⟩) fun h =>
              ⟨_, h, .inl he⟩
        | false =>
            rw [he] at hself
            exact (task_of_aborts hw hself).elim (fun h => ⟨_, h, .inr rfl⟩) fun h =>
              ⟨_, h, .inr rfl⟩
      · have hkept := (Workers.moves_of_step hw₁).task_kept ht fun heq =>
          hmn (Option.some.inj heq)
        exact ih hw hkept ((List.mem_cons.mp hn).resolve_left (Ne.symm hmn))

/-- A call that ends leaves no task of its own that has neither ended nor been told to stop. -/
theorem halted_of_ended {r : Except ExecutionError Response} {w : Workers GroupTask}
    (ho : s.Owned) (hc : s.calls[call]? = some stage)
    (hm : stage.Moves s call a events actions (.ended r)) (hw : s.workers.run actions = some w)
    (ht : s.workers.tasks[n]? = some t) (hcall : t.body.call = call) :
    ∃ t', w.tasks[n]? = some t' ∧ (t'.stage.hasEnded = true ∨ t'.aborting = true) := by
  have ended : t.stage.hasEnded = true →
      ∃ t', w.tasks[n]? = some t' ∧ (t'.stage.hasEnded = true ∨ t'.aborting = true) := fun he =>
    (hm.task_behind hw ht).elim (fun h => ⟨_, h, .inl he⟩) fun h => ⟨_, h, .inl he⟩
  rcases ho.standing n t stage ht (hcall ▸ hc) with he | hn | hover
  · exact ended he
  · cases hm with
    | fails _ => exact halted_of_aborts hw ht hn
    | collectedFailure hu hcollected =>
        rcases List.mem_cons.mp hn with rfl | hn
        · obtain rfl := Option.some.inj (ht.symm.trans hu)
          exact ended (ConnectionEngine.hasEnded_of_collected hcollected)
        · exact halted_of_aborts hw ht hn
    | refused _ | launchedNothing _ _ | collectedAll => cases hn
  · cases hm.isOver.symm.trans hover

/-- A task that has ended or been told to stop goes on to do nothing. -/
theorem Halted.step (h : Halted call s) (hm : s.Moves a s') (hc' : s'.calls[call]? = some stage')
    (hnone : stage'.tasks = []) : Halted call s' := by
  rintro n t' ht' hcall
  rcases hm.task_origin ht' with ⟨t, ht⟩ | ⟨_, _, _, hc'', hn, rfl, -⟩
  · obtain ⟨t'', ht'', hcases⟩ := hm.task_cases ht
    obtain rfl := Option.some.inj (ht'.symm.trans ht'')
    rcases hcases with rfl | rfl | ⟨_, hs⟩
    · exact h n _ ht hcall
    · exact .inr rfl
    · rw [hs.call_eq] at hcall
      have hrunning := hs.hasEnded
      have haborting := (h n t ht hcall).resolve_left (by simp [hrunning])
      cases hs with
      | runs _ ha _ | ends _ ha _ | requested _ ha | started _ ha _ => cases ha.symm.trans haborting
      | reaped _ _ => exact .inl rfl
  · rw [hcall] at hc''
    obtain rfl := Option.some.inj (hc'.symm.trans hc'')
    rw [hnone] at hn
    cases hn

/-- For a call that has ended and whose tasks are halted nothing is said. -/
theorem Halted.quiet (h : Halted call s) {r : Except ExecutionError Response}
    (hc : s.calls[call]? = some (.ended r)) : ∀ talk ∈ talk? s a, talk.call ≠ call := by
  rintro ⟨who, _, source, said⟩ htalk rfl
  obtain ⟨run, hg, -⟩ := group?_of_talk htalk
  cases who with
  | call n =>
      simp only [group?] at hg
      split at hg
      · next hrunning =>
          obtain ⟨rfl, -⟩ := Prod.mk.inj (Option.some.inj hg)
          cases hc.symm.trans hrunning
      · cases hg
  | task n =>
      obtain ⟨body, hbody, hg⟩ := Option.map_eq_some_iff.mp hg
      obtain ⟨t, ht, hs, ha, rfl⟩ := ConnectionEngine.running?_eq_some.mp hbody
      rcases h n t ht (Prod.mk.inj hg).1 with he | haborting
      · rw [hs] at he
        cases he
      · cases ha.symm.trans haborting

end

/-! ### The units that are sent -/

/-- The units that are sent for a call over one connection. -/
theorem unitsOn_eq (call : Nat) (source : String) (events : List (DispatchEvent SentStatement)) :
    unitsOn call source events = (sentBy call events).filterMap fun x =>
      if x.1 = source then some x.2.unit else none := by
  rw [unitsOn, sentBy, recordedBy, List.filterMap_filterMap]
  congr 1
  funext e
  cases e with
  | sent other source' m =>
      by_cases hcall : other = call <;> simp [DispatchEvent.unitOn?, hcall]
  | _ => split <;> rfl

/-- Units that are sent are said to be. -/
theorem unitsOn_eq_of_sent {call : Nat} {source : String}
    {events : List (DispatchEvent SentStatement)} {said : List Talk}
    (h : sentBy call events = said.filterMap (Talk.sent? call)) :
    unitsOn call source events = (saidOn call source said).filterMap Said.unit? := by
  rw [unitsOn_eq, h, saidOn, List.filterMap_filterMap, List.filterMap_filterMap]
  congr 1
  funext talk
  obtain ⟨who, other, source', x⟩ := talk
  cases x <;> by_cases hcall : other = call <;> by_cases hsource : source' = source <;>
    simp [Talk.sent?, Talk.on?, Said.unit?, hcall, hsource]

/-- Units none of which stands twice for its data source stand once. -/
theorem nodup_of_filter {units : List PhysicalUnit}
    (h : ∀ source, (units.filter (·.dataSource = source)).Nodup) : units.Nodup := by
  refine List.nodup_iff_count_le_one.mpr fun u => ?_
  rw [← List.count_filter (p := (·.dataSource = u.dataSource)) (by simp)]
  exact List.nodup_iff_count_le_one.mp (h u.dataSource) u

/-- Units that are the same for each data source are the same. -/
theorem perm_of_filter {units units' : List PhysicalUnit}
    (h : ∀ source, units.filter (·.dataSource = source) = units'.filter (·.dataSource = source)) :
    units.Perm units' := by
  refine List.perm_iff_count.mpr fun u => ?_
  rw [← List.count_filter (p := (·.dataSource = u.dataSource)) (by simp), h,
    List.count_filter (by simp)]

/-- What is sent is said on its connection. -/
theorem sent_mem_saidOn {call : Nat} {said : List Talk} {x : String × SentStatement}
    (hx : x ∈ said.filterMap (Talk.sent? call)) : .sent x.2 ∈ saidOn call x.1 said := by
  obtain ⟨⟨who, other, source, y⟩, htalk, hsent⟩ := List.mem_filterMap.mp hx
  cases y with
  | sent m =>
      by_cases hcall : other = call
      · obtain rfl : (source, m) = x := by simpa [Talk.sent?, hcall] using hsent
        exact List.mem_filterMap.mpr ⟨_, htalk, by simp [Talk.on?, hcall]⟩
      · simp [Talk.sent?, hcall] at hsent
  | answered _ _ | finished => cases hsent

end Connection

/-! ### Along a run -/

namespace ConnectionEngine.CallRun

open Connection

variable {settings : ConnectionSettings} {size : Nat} {route : Route} {keys : Bool} {call : Nat}
  {before after : List ConnectionAction} {s₀ s : ConnectionEngine}

/-- On every connection units are sent in turn. -/
theorem speaking (h : CallRun settings size route keys call before after s₀ s) :
    Speaking settings.strategy
      (fun source => (route.dispatchUnits keys).filter (·.dataSource = source)) call
      (talks s₀ (.begin route keys :: after)) s := by
  refine h.induction (P := fun as s => Speaking settings.strategy
    (fun source => (route.dispatchUnits keys).filter (·.dataSource = source)) call
    (talks s₀ (.begin route keys :: as)) s) ?_ ?_
  · intro s₁ hc hevents hw
    exact .of_none (by simp [talks_begin]) (h.fresh hc hevents hw).2
  · intro as u a u' hu hP hstep
    rw [← List.cons_append, talks_concat hu.after_run]
    exact hP.step hu.lifecycle.1 (fun g hg => Route.filter_dispatchUnits hg)
      (congrArg _ hu.reached.settings_eq) (moves_of_step hstep).1

/-- Every group is finished or outstanding. -/
theorem finishing (h : CallRun settings size route keys call before after s₀ s) :
    Finishing ((route.groups keys).map (·.dataSource)) call
      (talks s₀ (.begin route keys :: after)) s := by
  refine h.induction (P := fun as s => Finishing ((route.groups keys).map (·.dataSource)) call
    (talks s₀ (.begin route keys :: as)) s) ?_ ?_
  · intro s₁ hc _ hw
    refine ⟨fun n t _ ht hcall => absurd hcall (h.no_task hw ht), fun source hsource => ?_⟩
    rcases firstStage_cases route keys with ⟨hnil, -⟩ | ⟨-, heq⟩
    · rw [hnil] at hsource
      cases hsource
    · exact .inr (.acquiring (heq ▸ hc))
  · intro as u a u' hu hP hstep
    rw [← List.cons_append, talks_concat hu.after_run]
    exact hP.step hu.reached.owned hu.lifecycle.1 (moves_of_step hstep).1

/-- When the call has ended its tasks have ended or been told to stop. -/
theorem halted (h : CallRun settings size route keys call before after s₀ s) :
    ∀ r, s.calls[call]? = some (.ended r) → Halted call s := by
  refine h.induction (P := fun _ s => ∀ r, s.calls[call]? = some (.ended r) → Halted call s) ?_ ?_
  · exact fun s₁ _ _ hw _ _ n t ht hcall => absurd hcall (h.no_task hw ht)
  · intro as u a u' hu hP hstep r hc'
    have hm := (moves_of_step hstep).1
    obtain ⟨stage, hc⟩ := hu.exists_stage
    obtain ⟨stage', hc'', hstage⟩ := hm.call_behind hc
    obtain rfl := Option.some.inj (hc'.symm.trans hc'')
    rcases hstage with rfl | ⟨_, _, hmoves, hw⟩
    · exact (hP r hc).step hm hc' rfl
    · intro n t' ht' hcall
      rcases hm.task_origin ht' with ⟨t, ht⟩ | ⟨_, _, _, hc'', hn, rfl, -⟩
      · obtain ⟨t'', ht'', hcall'', -⟩ := hm.task_behind ht
        obtain rfl := Option.some.inj (ht'.symm.trans ht'')
        obtain ⟨t'', ht'', hhalted⟩ := halted_of_ended hu.reached.owned hc hmoves hw ht
          (hcall''.symm.trans hcall)
        obtain rfl := Option.some.inj (ht'.symm.trans ht'')
        exact hhalted
      · rw [hcall, hc'] at hc''
        cases hc''
        cases hn

/-- When the call has ended nothing more is sent for it. -/
theorem sentBy_of_ended (h : CallRun settings size route keys call before after s₀ s)
    {r : Except ExecutionError Response} (hc : s.calls[call]? = some (.ended r))
    {more : List ConnectionAction} {s' : ConnectionEngine} (hrun : s.run more = some s') :
    sentBy call s'.events = sentBy call s.events := by
  refine (foldlM_invariant (P := fun u => u.calls[call]? = some (.ended r) ∧ Halted call u ∧
    sentBy call u.events = sentBy call s.events) ?_ ⟨hc, h.halted r hc, rfl⟩ hrun).2.2
  rintro u a u' ⟨hc, hhalted, hsent⟩ hstep
  have hm := (moves_of_step hstep).1
  have hc' := isOver_kept hm hc rfl
  refine ⟨hc', hhalted.step hm hc' rfl, ?_⟩
  rw [(turn_of_moves hm call).sentBy_eq, sent?_others fun talk htalk =>
    hhalted.quiet hc talk (Option.mem_toList.mp htalk), List.append_nil, hsent]

end ConnectionEngine.CallRun

namespace Connection

/-! ### The main result -/

/-- What holds at any time of the statements of a call that has begun. -/
structure StatementsSent (σ : ConnectionStrategy) (route : Route) (keys : Bool) (call : Nat)
    (said : List Talk) (s : ConnectionEngine) : Prop where
  /-- On the connection to each data source its units are sent in turn, -/
  inTurn : ∀ source, SentInTurn σ ((route.dispatchUnits keys).filter (·.dataSource = source))
    (saidOn call source said)
  /-- which is the order of the route, -/
  order : ∀ source, ((route.dispatchUnits keys).filter (·.dataSource = source)).map (·.sql) =
    (route.units.filter (·.dataSource = source)).map (·.sql)
  /-- and nothing else is sent. -/
  sent : sentBy call s.events = said.filterMap (Talk.sent? call)
  /-- No unit is sent twice. -/
  once : ((sentBy call s.events).map (·.2.unit)).Nodup
  /-- Metadata is asked for with the first unit alone, generated keys with all units or none. -/
  options : ∀ x ∈ sentBy call s.events, x.2.unit ∈ route.dispatchUnits keys ∧
    x.2.unit.dataSource = x.1 ∧ (x.2.options.captureMetadata = true ↔ x.2.unit.index = 0) ∧
    x.2.options.returnGeneratedKeys = keys
  /-- A call that has succeeded has sent every unit, -/
  all : ∀ r, s.calls[call]? = some (.ended (.ok r)) →
    ((sentBy call s.events).map (·.2.unit)).Perm (route.dispatchUnits keys)
  /-- which are the units of the route, each to its data source. -/
  routed : ∀ r, s.calls[call]? = some (.ended (.ok r)) →
    ((sentBy call s.events).map fun x => (x.1, x.2.unit.sql)).Perm
      (route.units.map fun u => (u.dataSource, u.sql))
  /-- When a call has ended nothing more is sent for it, whatever happens. -/
  after : ∀ r more s', s.calls[call]? = some (.ended r) → s.run more = some s' →
    sentBy call s'.events = sentBy call s.events

section

variable {settings : ConnectionSettings} {size : Nat} {route : Route} {keys : Bool} {call : Nat}
  {before after : List ConnectionAction} {s₀ s : ConnectionEngine}

/-- The units of a data source are sent in their order. -/
theorem unitsOn_isPrefix
    (h : ConnectionEngine.CallRun settings size route keys call before after s₀ s)
    (source : String) :
    unitsOn call source s.events <+:
      (route.dispatchUnits keys).filter (·.dataSource = source) := by
  rw [unitsOn_eq_of_sent h.sentBy_eq]
  exact (h.speaking.inTurn source).units_isPrefix

/-- What is sent to a data source is one of its units. -/
theorem unit_of_sent
    (h : ConnectionEngine.CallRun settings size route keys call before after s₀ s)
    {x : String × SentStatement} (hx : x ∈ sentBy call s.events) :
    x.2.unit ∈ route.dispatchUnits keys ∧ x.2.unit.dataSource = x.1 := by
  have hmem : x.2.unit ∈ unitsOn call x.1 s.events := by
    rw [unitsOn_eq]
    exact List.mem_filterMap.mpr ⟨x, hx, if_pos rfl⟩
  simpa using (unitsOn_isPrefix h x.1).subset hmem

/-- The units that are sent for a data source are those that are sent to it. -/
theorem filter_sent
    (h : ConnectionEngine.CallRun settings size route keys call before after s₀ s)
    (source : String) :
    ((sentBy call s.events).map (·.2.unit)).filter (·.dataSource = source) =
      unitsOn call source s.events := by
  rw [unitsOn_eq, ← List.filterMap_eq_filter, List.filterMap_map]
  refine List.filterMap_congr fun x hx => ?_
  have hsource := (unit_of_sent h hx).2
  by_cases hs : x.1 = source <;> simp [Option.guard, hsource, hs]

/-- A call that has succeeded has sent all units of every data source. -/
theorem unitsOn_of_ok
    (h : ConnectionEngine.CallRun settings size route keys call before after s₀ s)
    {r : Response} (hc : s.calls[call]? = some (.ended (.ok r))) (source : String) :
    unitsOn call source s.events =
      (route.dispatchUnits keys).filter (·.dataSource = source) := by
  by_cases hsource : source ∈ (route.groups keys).map (·.dataSource)
  · rw [unitsOn_eq_of_sent h.sentBy_eq]
    exact (h.speaking.inTurn source).units_of_finished
      ((h.finishing.finished source hsource).resolve_right (not_outstanding hc))
  · have hnil : (route.dispatchUnits keys).filter (·.dataSource = source) = [] := by
      refine List.filter_eq_nil_iff.mpr fun u hu heq => hsource ?_
      obtain ⟨g, hg, hu⟩ := List.mem_flatMap.mp hu
      rw [← of_decide_eq_true heq, route.dataSource_of_mem_groups keys hg hu]
      exact List.mem_map_of_mem hg
    rw [hnil]
    exact List.prefix_nil.mp (hnil ▸ unitsOn_isPrefix h source)

/-- A call that has succeeded has sent every unit. -/
theorem perm_of_ok
    (h : ConnectionEngine.CallRun settings size route keys call before after s₀ s)
    {r : Response} (hc : s.calls[call]? = some (.ended (.ok r))) :
    ((sentBy call s.events).map (·.2.unit)).Perm (route.dispatchUnits keys) := by
  refine perm_of_filter fun source => ?_
  rw [filter_sent h, unitsOn_of_ok h hc]

/-- **The statements of a call are sent in turn**, in every run, whatever is refused, fails, breaks
or is given up. -/
theorem statements_sent
    (h : ConnectionEngine.CallRun settings size route keys call before after s₀ s) :
    StatementsSent settings.strategy route keys call (talks s₀ (.begin route keys :: after)) s := by
  have hsent := h.sentBy_eq
  constructor
  case inTurn => exact h.speaking.inTurn
  case order => exact route.sqls_of_source keys
  case sent => exact hsent
  case once =>
    refine nodup_of_filter fun source => ?_
    rw [filter_sent h]
    exact ((route.nodup_dispatchUnits keys).filter _).sublist (unitsOn_isPrefix h source).sublist
  case options =>
    intro x hx
    obtain ⟨hunit, hsource⟩ := unit_of_sent h hx
    have hoptions := (h.speaking.inTurn x.1).options_of_sent (sent_mem_saidOn (hsent ▸ hx))
    refine ⟨hunit, hsource, ?_, ?_⟩
    · rw [hoptions]
      simp [ConnectionStrategy.options, PhysicalUnit.captures]
    · rw [hoptions]
      exact route.returnGeneratedKeys_of_mem keys hunit
  case all => exact fun r hc => perm_of_ok h hc
  case routed =>
    intro r hc
    have hperm := ((perm_of_ok h hc).map fun u => (u.dataSource, u.sql)).trans
      (route.perm_dispatchUnits keys)
    have hpairs : (sentBy call s.events).map (fun x => (x.1, x.2.unit.sql)) =
        ((sentBy call s.events).map (·.2.unit)).map fun u => (u.dataSource, u.sql) := by
      rw [List.map_map]
      exact List.map_congr_left fun x hx => congrArg (·, x.2.unit.sql) (unit_of_sent h hx).2.symm
    rwa [hpairs]
  case after => exact fun r more s' hc hrun => h.sentBy_of_ended hc hrun

/-- Two statements for one data source and one for another. -/
def threeUnits : Route :=
  (((Route.ofStatement (.ofKind .dml)).withUnit "ds_0" "a").withUnit "ds_1" "b").withUnit "ds_0" "c"

/-- The task answers between the two statements of the call. -/
def interleaved : List ConnectionAction :=
  [.ask 0, .acquired 0 none, .ask 0, .acquired 0 none, .launch 0, .send (.call 0), .request 0,
    .start 0, .send (.task 0), .answer (.call 0) (.result (.ok (.update ⟨1, 0⟩))),
    .send (.call 0), .answer (.task 0) (.result (.ok (.update ⟨1, 0⟩))), .finish (.task 0),
    .answer (.call 0) (.result (.ok (.update ⟨1, 0⟩))), .finish (.call 0), .collect 0,
    .collect 0]

/-- A call whose groups interleave sends each of its units once. -/
theorem statements_sent_interleaved : ∃ s₀ s,
    ConnectionEngine.CallRun ⟨.connectionStrictly, false⟩ 1 threeUnits true 0 [] interleaved s₀ s ∧
    unitsOn 0 "ds_0" s.events = [⟨0, "ds_0", "a", true⟩, ⟨1, "ds_0", "c", true⟩] ∧
    ((sentBy 0 s.events).map (·.2.unit)).Perm (threeUnits.dispatchUnits true) := by
  have h : ConnectionEngine.CallRun ⟨.connectionStrictly, false⟩ 1 threeUnits true 0 [] interleaved
      _ _ := ⟨rfl, rfl, rfl⟩
  exact ⟨_, _, h, rfl, (statements_sent h).all _ rfl⟩

end

end Connection

end ScatterGather
