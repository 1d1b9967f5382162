import ScatterGather.Proofs.Connection.AnySchedule
import ScatterGather.Proofs.Connection.Turns

/-!
# The connections of a call from request to release

A call asks for one connection for each of its data sources, in turn (`Acquiring`), and runs its
groups only when it has them all. From then on each connection is with one runner, until that lets
go of it (`Launched`). `Lifecycle` says where the connections of a call are at any time, and every
step of the engine keeps it, whatever is refused, fails, breaks or is given up (`Lifecycle.step`).
-/

namespace ScatterGather.Connection

/-! ### While connections are acquired -/

/-- What a call has recorded that acquires connections. -/
structure Acquiring (call : Nat) (events : List (DispatchEvent SentStatement)) (acq : Acquisition) :
    Prop where
  requested : requestedBy call events =
    acquiredBy call events ++ (if acq.asked then acq.todo.take 1 else []).map (·.dataSource)
  acquired : acquiredBy call events = acq.held.map (·.dataSource)
  released : releasedBy call events = []
  sent : sentBy call events = []

/-- What a call has asked for is what it has got, but for the last connection it asked for. -/
structure Asked (sources : List String) (call : Nat)
    (events : List (DispatchEvent SentStatement)) : Prop where
  inOrder : requestedBy call events <+: sources
  last : requestedBy call events = acquiredBy call events ∨
    ∃ source, requestedBy call events = acquiredBy call events ++ [source]

/-- A call asks no further by what leaves its requests as they are. -/
theorem Asked.quiet {sources : List String} {call : Nat}
    {events more : List (DispatchEvent SentStatement)} (h : Asked sources call events)
    (hreq : requestedBy call more = []) (hacq : acquiredBy call more = []) :
    Asked sources call (events ++ more) := by
  obtain ⟨hin, hlast⟩ := h
  exact ⟨by simpa [hreq] using hin, by simpa [hreq, hacq] using hlast⟩

/-- What a call has got it has asked for. -/
theorem Asked.acquired {sources : List String} {call : Nat}
    {events : List (DispatchEvent SentStatement)} (h : Asked sources call events) :
    acquiredBy call events <+: sources := by
  refine List.IsPrefix.trans ?_ h.inOrder
  rcases h.last with hlast | ⟨source, hlast⟩
  · exact hlast ▸ List.prefix_refl _
  · exact hlast ▸ List.prefix_append _ _

namespace Acquiring

variable {call : Nat} {events more : List (DispatchEvent SentStatement)} {acq acq' : Acquisition}
  {groups : List UnitGroup} {source : String}

/-- A call that begins has recorded nothing. -/
theorem begin (h : ∀ e ∈ events, e.call ≠ call) (groups : List UnitGroup) :
    Acquiring call events (.ofGroups groups) where
  requested := by
    simp only [recordedBy_others h]
    rfl
  acquired := recordedBy_others h
  released := recordedBy_others h
  sent := recordedBy_others h

/-- What others do does not matter. -/
theorem others (h : Acquiring call events acq) (hmore : ∀ e ∈ more, e.call ≠ call) :
    Acquiring call (events ++ more) acq := by
  obtain ⟨hreq, hacq, hrel, hsent⟩ := h
  constructor
  · simp [hreq, recordedBy_others hmore]
  · simp [hacq, recordedBy_others hmore]
  · simp [hrel, recordedBy_others hmore]
  · simp [hsent, recordedBy_others hmore]

/-- A call that acquires asks in the order of its groups. -/
theorem asked (h : Acquiring call events acq) (hof : acq.Of groups) :
    Asked (groups.map (·.dataSource)) call events := by
  constructor
  · rw [h.requested, h.acquired, ← hof.groups_eq, ← List.map_append]
    refine List.IsPrefix.map _ ?_
    split
    · exact (List.prefix_append_right_inj _).mpr (List.take_prefix 1 _)
    · simp
  · rw [h.requested]
    by_cases ha : acq.asked = true
    · obtain ⟨g, rest, ht⟩ := List.exists_cons_of_ne_nil (hof.todo_ne ha)
      exact .inr ⟨g.dataSource, by simp [ha, ht]⟩
    · exact .inl (by simp [ha])

/-- It asks for the next connection. -/
theorem ask (h : Acquiring call events acq) (ha : acq.ask? = some (source, acq')) :
    Acquiring call (events ++ [.requested call source]) acq' := by
  obtain ⟨hnot, ⟨g, rest, ht, rfl⟩, rfl⟩ := Acquisition.ask?_eq_some.mp ha
  have hreq := h.requested
  constructor
  · simp [hreq, hnot, ht]
  · simp [h.acquired]
  · simp [h.released]
  · simp [h.sent]

/-- It gets the connection that it has asked for. -/
theorem grant (h : Acquiring call events acq) (ha : acq.grant? = some (source, acq')) :
    Acquiring call (events ++ [.acquired call source]) acq' := by
  obtain ⟨hasked, g, rest, ht, rfl, rfl⟩ := Acquisition.grant?_eq_some.mp ha
  have hreq := h.requested
  constructor
  · simp [hreq, hasked, ht]
  · simp [h.acquired]
  · simp [h.released]
  · simp [h.sent]

/-- It asks when it may. -/
theorem disciplined_ask (h : Acquiring call events acq) (hof : acq.Of groups)
    (hd : Disciplined (groups.map (·.dataSource)) call events)
    (ha : acq.ask? = some (source, acq')) :
    Disciplined (groups.map (·.dataSource)) call (events ++ [.requested call source]) := by
  obtain ⟨hnot, ⟨g, rest, ht, rfl⟩, rfl⟩ := Acquisition.ask?_eq_some.mp ha
  have hreq : requestedBy call events = acq.held.map (·.dataSource) := by
    rw [h.requested, h.acquired]
    simp [hnot]
  refine hd.concat fun _ => ⟨h.acquired.trans hreq.symm, ?_, h.released⟩
  rw [hreq, ← hof.groups_eq, ht]
  exact ⟨rest.map (·.dataSource), by simp⟩

/-- What it gets is what it has asked for. -/
theorem disciplined_grant (h : Acquiring call events acq)
    (hd : Disciplined (groups.map (·.dataSource)) call events)
    (ha : acq.grant? = some (source, acq')) :
    Disciplined (groups.map (·.dataSource)) call (events ++ [.acquired call source]) := by
  obtain ⟨hasked, g, rest, ht, rfl, rfl⟩ := Acquisition.grant?_eq_some.mp ha
  exact hd.concat fun _ => ⟨by rw [h.requested]; simp [hasked, ht], h.released⟩

/-- It gives back what it holds when that is all there will be. -/
theorem disciplined_releases (h : Acquiring call events acq) (hof : acq.Of groups)
    (hnodup : (groups.map (·.dataSource)).Nodup)
    (hd : Disciplined (groups.map (·.dataSource)) call events) :
    Disciplined (groups.map (·.dataSource)) call
      (events ++ Acquisition.releases call acq.held) := by
  refine hd.releases ?_ fun g hg => ⟨?_, by rw [h.released]; simp⟩
  · rw [← hof.groups_eq, List.map_append] at hnodup
    exact (List.nodup_append.mp hnodup).1
  · rw [h.acquired]
    exact List.mem_map_of_mem hg

end Acquiring

/-! ### While groups are run -/

/-- Each connection of a call is with the one runner it was given to, or has been given back. -/
structure Launched (sources : List String) (call : Nat) (who : String → Runner)
    (events : List (DispatchEvent SentStatement)) (holding : Runner → Option GroupRun) : Prop where
  requested : requestedBy call events = sources
  acquired : acquiredBy call events = sources
  nodup : (releasedBy call events).Nodup
  distinct : ∀ x ∈ sources, ∀ y ∈ sources, who x = who y → x = y
  holds : ∀ w run, holding w = some run → run.dataSource ∈ sources ∧ w = who run.dataSource ∧
    run.dataSource ∉ releasedBy call events
  kept : ∀ source ∈ sources, source ∈ releasedBy call events ∨
    ∃ run, holding (who source) = some run ∧ run.dataSource = source
  released : ∀ source ∈ releasedBy call events, source ∈ sources

namespace Launched

variable {sources : List String} {call : Nat} {who : String → Runner}
  {events more : List (DispatchEvent SentStatement)} {holding : Runner → Option GroupRun}
  {w : Runner} {run run' : GroupRun}

/-- Nothing is asked for, got or given back. -/
theorem quiet (h : Launched sources call who events holding) (hreq : requestedBy call more = [])
    (hacq : acquiredBy call more = []) (hrel : releasedBy call more = []) :
    Launched sources call who (events ++ more) holding := by
  have hrel' : releasedBy call (events ++ more) = releasedBy call events := by simp [hrel]
  exact ⟨by simp [hreq, h.requested], by simp [hacq, h.acquired], hrel' ▸ h.nodup, h.distinct,
    hrel' ▸ h.holds, hrel' ▸ h.kept, hrel' ▸ h.released⟩

/-- What others do does not matter. -/
theorem others (h : Launched sources call who events holding)
    (hmore : ∀ e ∈ more, e.call ≠ call) : Launched sources call who (events ++ more) holding :=
  h.quiet (recordedBy_others hmore) (recordedBy_others hmore) (recordedBy_others hmore)

/-- A runner goes on with its group. -/
theorem goesOn (h : Launched sources call who events holding) (hrun : holding w = some run)
    (hsource : run'.dataSource = run.dataSource) :
    Launched sources call who events (Function.update holding w (some run')) := by
  refine ⟨h.requested, h.acquired, h.nodup, h.distinct, ?_, ?_, h.released⟩
  · intro w' run'' hw'
    by_cases heq : w' = w
    · subst heq
      rw [Function.update_self] at hw'
      obtain rfl := Option.some.inj hw'
      rw [hsource]
      exact h.holds w' run hrun
    · rw [Function.update_of_ne heq] at hw'
      exact h.holds w' run'' hw'
  · intro x hx
    refine (h.kept x hx).imp_right ?_
    rintro ⟨run'', hrun'', rfl⟩
    by_cases heq : who run''.dataSource = w
    · obtain rfl : run = run'' := Option.some.inj (hrun.symm.trans (heq ▸ hrun''))
      exact ⟨run', by rw [heq, Function.update_self], hsource⟩
    · exact ⟨run'', by rw [Function.update_of_ne heq, hrun''], rfl⟩

/-- A runner lets go of its connection. -/
theorem release (h : Launched sources call who events holding) (hrun : holding w = some run) :
    Launched sources call who (events ++ [.released call run.dataSource])
      (Function.update holding w none) := by
  obtain ⟨hin, hw, hout⟩ := h.holds w run hrun
  constructor
  · simp [h.requested]
  · simp [h.acquired]
  · simpa [List.nodup_append] using ⟨h.nodup, fun x hx heq => hout (heq ▸ hx)⟩
  · exact h.distinct
  · intro w' run' hw'
    have heq : w' ≠ w := fun heq => by
      rw [heq, Function.update_self] at hw'
      cases hw'
    rw [Function.update_of_ne heq] at hw'
    obtain ⟨hin', hw'', hout'⟩ := h.holds w' run' hw'
    have hne : run'.dataSource ≠ run.dataSource := fun hs =>
      heq (hw''.trans ((congrArg who hs).trans hw.symm))
    exact ⟨hin', hw'', by simp [hout', hne]⟩
  · intro x hx
    by_cases hxs : x = run.dataSource
    · exact .inl (by simp [hxs])
    · rcases h.kept x hx with hrel | ⟨run', hrun', rfl⟩
      · exact .inl (by simp [hrel])
      · refine .inr ⟨run', ?_, rfl⟩
        rw [Function.update_of_ne, hrun']
        rintro rfl
        exact hxs (congrArg (·.dataSource) (Option.some.inj (hrun'.symm.trans hrun)))
  · intro x hx
    rcases List.mem_append.mp (by simpa using hx : x ∈ _ ++ [run.dataSource]) with hx | hx
    · exact h.released x hx
    · exact List.mem_singleton.mp hx ▸ hin

/-- A call that is launched has asked for all its connections. -/
theorem asked (h : Launched sources call who events holding) : Asked sources call events where
  inOrder := h.requested ▸ List.prefix_refl _
  last := .inl (h.requested.trans h.acquired.symm)

/-- When nobody has a connection any more, all have been given back. -/
theorem perm_released (h : Launched sources call who events holding)
    (hnodup : sources.Nodup) (hnone : ∀ w, holding w = none) :
    (releasedBy call events).Perm (acquiredBy call events) := by
  rw [h.acquired]
  refine (List.perm_ext_iff_of_nodup h.nodup hnodup).mpr fun x => ⟨h.released x, fun hx => ?_⟩
  rcases h.kept x hx with hrel | ⟨run, hrun, -⟩
  · exact hrel
  · rw [hnone] at hrun
    cases hrun

end Launched

/-- The runner of the group at a place: the first group is the call's own, the others are with the
tasks that it spawns. -/
def runnerAt (call base : Nat) : Nat → Runner
  | 0 => .call call
  | i + 1 => .task (base + i)

theorem runnerAt_injective (call base : Nat) : Function.Injective (runnerAt call base) := by
  intro i j h
  cases i <;> cases j <;> simp_all [runnerAt]

section

variable {s s' : ConnectionEngine} {call : Nat} {a : ConnectionAction} {first : UnitGroup}
  {others : List UnitGroup} {tasks : List Nat}

/-- When a call is launched its groups are with their runners. -/
theorem holding?_launched (hnone : ∀ w, holding? s call w = none)
    (hc : s'.calls[call]? = some (.running (.ofGroup first) tasks))
    (hw : s.workers.run (others.map fun g => .spawn ⟨call, .ofGroup g, none⟩) = some s'.workers)
    (w : Runner) (run : GroupRun) :
    holding? s' call w = some run ↔ ∃ i g, (first :: others)[i]? = some g ∧
      w = runnerAt call s.workers.tasks.length i ∧ run = .ofGroup g := by
  have htasks := tasks_of_spawns hw
  constructor
  · intro h
    cases w with
    | call n =>
        by_cases hn : n = call
        · subst hn
          refine ⟨0, first, rfl, rfl, ?_⟩
          simpa [holding?, hc, ConnectionStage.run?, eq_comm] using h
        · simp [holding?, hn] at h
    | task n =>
        have h' : (s.workers.tasks ++ others.map fun g =>
            ⟨.fresh, false, ⟨call, .ofGroup g, none⟩⟩)[n]?.bind (GroupTask.runFor? call) =
              some run := htasks ▸ h
        by_cases hlt : n < s.workers.tasks.length
        · rw [List.getElem?_append_left hlt] at h'
          cases (hnone (.task n)).symm.trans h'
        · have hle := Nat.le_of_not_lt hlt
          rw [List.getElem?_append_right hle, List.getElem?_map, Option.bind_map] at h'
          obtain ⟨g, hg, hrun⟩ := Option.bind_eq_some_iff.mp h'
          refine ⟨n - s.workers.tasks.length + 1, g, hg, ?_, ?_⟩
          · rw [runnerAt, Nat.add_sub_cancel' hle]
          · simpa [GroupTask.runFor?, WorkerStage.hasEnded, eq_comm] using hrun
  · rintro ⟨i, g, hg, rfl, rfl⟩
    cases i with
    | zero =>
        obtain rfl : first = g := by simpa using hg
        simp [runnerAt, holding?, hc, ConnectionStage.run?]
    | succ i =>
        have hg : others[i]? = some g := hg
        rw [runnerAt, holding?, htasks, List.getElem?_append_right (Nat.le_add_right ..),
          Nat.add_sub_cancel_left, List.getElem?_map, hg]
        simp [GroupTask.runFor?, WorkerStage.hasEnded]

/-- A call that is launched has given each connection to one runner. -/
theorem launched_of_holding {groups : List UnitGroup} {base : Nat}
    {events : List (DispatchEvent SentStatement)} {holding : Runner → Option GroupRun}
    (hnodup : (groups.map (·.dataSource)).Nodup)
    (hreq : requestedBy call events = groups.map (·.dataSource))
    (hacq : acquiredBy call events = groups.map (·.dataSource))
    (hrel : releasedBy call events = [])
    (hholding : ∀ w run, holding w = some run ↔ ∃ i g, groups[i]? = some g ∧
      w = runnerAt call base i ∧ run = .ofGroup g) :
    Launched (groups.map (·.dataSource)) call
      (fun source => runnerAt call base ((groups.map (·.dataSource)).idxOf source)) events
      holding := by
  have hidx : ∀ {i : Nat} {g : UnitGroup}, groups[i]? = some g →
      (groups.map (·.dataSource)).idxOf g.dataSource = i := fun {i g} hg => by
    obtain ⟨hi, rfl⟩ := List.getElem?_eq_some_iff.mp hg
    have := hnodup.idxOf_getElem i (by simpa using hi)
    rwa [List.getElem_map] at this
  refine ⟨hreq, hacq, by rw [hrel]; simp, ?_, ?_, ?_, by rw [hrel]; simp⟩
  · intro x hx y _ heq
    exact (List.idxOf_inj hx).mp (runnerAt_injective _ _ heq)
  · intro w run hw
    obtain ⟨i, g, hg, rfl, rfl⟩ := (hholding w run).mp hw
    refine ⟨List.mem_map_of_mem (List.mem_of_getElem? hg), ?_, by rw [hrel]; simp⟩
    exact congrArg _ (hidx hg).symm
  · intro source hsource
    obtain ⟨g, hg, rfl⟩ := List.mem_map.mp hsource
    obtain ⟨i, hi⟩ := List.getElem?_of_mem hg
    exact .inr ⟨.ofGroup g, (hholding _ _).mpr ⟨i, g, hi, congrArg _ (hidx hi), rfl⟩, rfl⟩

end

/-! ### From step to step -/

/-- Where the connections of a call are. -/
inductive Lifecycle (groups : List UnitGroup) (call : Nat) (said : List Talk)
    (s : ConnectionEngine) : Prop where
  /-- It is acquiring them. -/
  | acquiring {acq} (hc : s.calls[call]? = some (.acquiring acq)) (hof : acq.Of groups)
    (h : Acquiring call s.events acq) (hnone : ∀ w, holding? s call w = none)
    (hquiet : ∀ talk ∈ said, talk.call ≠ call)
  /-- It is over and has run nothing. -/
  | closed {stage} (hc : s.calls[call]? = some stage) (hover : stage.isOver = true)
    (hok : ∀ r, stage = .ended (.ok r) → groups = [])
    (hasked : Asked (groups.map (·.dataSource)) call s.events)
    (hrel : releasedBy call s.events = acquiredBy call s.events)
    (hsent : sentBy call s.events = []) (hnone : ∀ w, holding? s call w = none)
    (hquiet : ∀ talk ∈ said, talk.call ≠ call)
  /-- They are with their runners. -/
  | launched {stage who} (hc : s.calls[call]? = some stage) (hstage : ∀ acq, stage ≠ .acquiring acq)
    (h : Launched (groups.map (·.dataSource)) call who s.events (holding? s call))
    (htalks : ∀ talk ∈ said, talk.call = call →
      talk.source ∈ groups.map (·.dataSource) ∧ talk.who = who talk.source)

section

variable {s s' : ConnectionEngine} {call : Nat} {a : ConnectionAction}
  {stage stage' : ConnectionStage} {events : List (DispatchEvent SentStatement)}
  {actions : List (WorkerAction GroupTask)} {groups : List UnitGroup} {said : List Talk}
  {acq : Acquisition}

/-- A call acquires only before it does anything else. -/
theorem not_acquiring (h : stage.Moves s call a events actions stage')
    (hstage : ∀ acq, stage ≠ .acquiring acq) : ∀ acq, stage' ≠ .acquiring acq := by
  cases h with
  | asked _ | granted _ => exact fun _ _ => hstage _ rfl
  | _ => nofun

/-- A call that has all its connections or none any more does not acquire. -/
theorem exists_stage (hm : s.Moves a s') (hc : s.calls[call]? = some stage)
    (hstage : ∀ acq, stage ≠ .acquiring acq) :
    ∃ stage', s'.calls[call]? = some stage' ∧ ∀ acq, stage' ≠ .acquiring acq := by
  obtain ⟨stage', hc', rfl | ⟨_, _, hmoves, -⟩⟩ := hm.call_behind hc
  · exact ⟨_, hc', hstage⟩
  · exact ⟨_, hc', not_acquiring hmoves hstage⟩

/-- A call that is over stays as it is. -/
theorem isOver_kept (hm : s.Moves a s') (hc : s.calls[call]? = some stage)
    (hover : stage.isOver = true) : s'.calls[call]? = some stage := by
  obtain ⟨stage', hc', rfl | ⟨_, _, hmoves, -⟩⟩ := hm.call_behind hc
  · exact hc'
  · cases hover.symm.trans hmoves.isOver

theorem not_acquiring_of_isOver (hover : stage.isOver = true) (acq : Acquisition) :
    stage ≠ .acquiring acq := by
  rintro rfl
  cases hover

/-- What is said of a step is said behind what was said before. -/
theorem forall_talks {P : Talk → Prop} (hsaid : ∀ talk ∈ said, P talk)
    (h : ∀ talk ∈ talk? s a, P talk) : ∀ talk ∈ said ++ (talk? s a).toList, P talk := by
  intro talk htalk
  rcases List.mem_append.mp htalk with htalk | htalk
  · exact hsaid talk htalk
  · exact h talk (Option.mem_toList.mp htalk)

/-- A call without connections that acquires none has nothing to do with what happens. -/
theorem Turn.quiet (h : Turn s call a s') (hnone : ∀ w, holding? s call w = none)
    (hc : s.calls[call]? = some stage) (hstage : ∀ acq, stage ≠ .acquiring acq) :
    (∃ more, s'.events = s.events ++ more ∧ ∀ e ∈ more, e.call ≠ call) ∧
      ∀ w, holding? s' call w = none := by
  cases h with
  | others _ hev hothers hheld _ => exact ⟨⟨_, hev, hothers⟩, hheld ▸ hnone⟩
  | @acquires acq _ _ _ hc' _ _ _ _ _ =>
      exact absurd (Option.some.inj (hc.symm.trans hc')) (hstage acq)
  | goesOn hrun _ _ _ _ | ends hrun _ _ _ _ | stops hrun _ _ _ => cases (hnone _).symm.trans hrun

/-- Who has no connection of a call says nothing on one. -/
theorem quiet_of_none (hnone : ∀ w, holding? s call w = none) :
    ∀ talk ∈ talk? s a, talk.call ≠ call := by
  rintro talk htalk rfl
  obtain ⟨run, hrun, -⟩ := holding?_of_talk htalk
  cases (hnone _).symm.trans hrun

/-- Nobody gets a connection of a call that runs no group, as long as no task is spawned. -/
theorem none_kept (hnone : ∀ w, holding? s call w = none) (hc' : s'.calls[call]? = some stage')
    (hrun : stage'.run? = none) (hw : s.workers.run [] = some s'.workers) (w : Runner) :
    holding? s' call w = none := by
  have hw : s.workers = s'.workers := Option.some.inj hw
  rw [holding?_call hc' (fun n => by rw [hw])]
  by_cases h : w = .call call
  · rw [h, Function.update_self, hrun]
  · rw [Function.update_of_ne h, hnone]

/-- The connections of a call that is launched stay with their runners. -/
theorem Launched.turn {sources : List String} {who : String → Runner}
    (h : Launched sources call who s.events (holding? s call))
    (hd : Disciplined sources call s.events) (ht : Turn s call a s')
    (hacq : ∀ acq, s.calls[call]? ≠ some (.acquiring acq)) :
    Launched sources call who s'.events (holding? s' call) ∧
      Disciplined sources call s'.events := by
  have release : ∀ {w run}, holding? s call w = some run →
      s'.events = s.events ++ [.released call run.dataSource] →
      holding? s' call = Function.update (holding? s call) w none →
      Launched sources call who s'.events (holding? s' call) ∧
        Disciplined sources call s'.events := by
    intro w run hrun hev hheld
    obtain ⟨hin, -, hout⟩ := h.holds _ _ hrun
    rw [hev, hheld]
    exact ⟨h.release hrun, hd.concat fun _ => ⟨h.acquired ▸ hin, hout⟩⟩
  cases ht with
  | others _ hev hothers hheld _ =>
      rw [hev, hheld]
      exact ⟨h.others hothers, hd.others hothers⟩
  | acquires hc _ _ _ _ _ => exact absurd hc (hacq _)
  | @goesOn w run run' sent hrun hm hev hheld _ =>
      obtain ⟨hin, -, hout⟩ := h.holds _ _ hrun
      rw [hev, hheld]
      refine ⟨(h.goesOn hrun hm.dataSource_eq).quiet (by simp) (by simp) (by simp), ?_⟩
      cases sent with
      | none => simpa using hd
      | some u => exact hd.concat fun _ => ⟨h.acquired, hin, hout⟩
  | ends hrun _ hev hheld _ => exact release hrun hev hheld
  | stops hrun hev hheld _ => exact release hrun hev hheld

/-- A call that acquires goes on to acquire, gives back what it has got, or is launched. -/
theorem Lifecycle.of_acquiring (hnodup : (groups.map (·.dataSource)).Nodup) (hof : acq.Of groups)
    (h : Acquiring call s.events acq) (hnone : ∀ w, holding? s call w = none)
    (hquiet : ∀ talk ∈ said, talk.call ≠ call)
    (hd : Disciplined (groups.map (·.dataSource)) call s.events)
    (hm : (ConnectionStage.acquiring acq).Moves s call a events actions stage')
    (hc' : s'.calls[call]? = some stage') (hev : s'.events = s.events ++ events)
    (hw : s.workers.run actions = some s'.workers) :
    Lifecycle groups call said s' ∧ Disciplined (groups.map (·.dataSource)) call s'.events := by
  have givesBack : events = Acquisition.releases call acq.held → actions = [] →
      stage'.isOver = true → stage'.run? = none → (∀ r, stage' ≠ .ended (.ok r)) →
      Lifecycle groups call said s' ∧
        Disciplined (groups.map (·.dataSource)) call s'.events := by
    rintro rfl rfl hover hrun hfail
    have hnone' := none_kept hnone hc' hrun hw
    refine ⟨.closed hc' hover (fun r h => absurd h (hfail r)) ?_ ?_ ?_ hnone' hquiet, ?_⟩
    · rw [hev]
      exact (h.asked hof).quiet (by simp) (by simp)
    · simp [hev, h.released, h.acquired]
    · simp [hev, h.sent]
    · rw [hev]
      exact h.disciplined_releases hof hnodup hd
  cases hm with
  | asked ha =>
      have hnone' := none_kept hnone hc' rfl hw
      exact ⟨.acquiring hc' (hof.ask ha) (hev ▸ h.ask ha) hnone' hquiet,
        hev ▸ h.disciplined_ask hof hd ha⟩
  | granted ha =>
      have hnone' := none_kept hnone hc' rfl hw
      exact ⟨.acquiring hc' (hof.grant ha) (hev ▸ h.grant ha) hnone' hquiet,
        hev ▸ h.disciplined_grant hd ha⟩
  | refused _ | droppedAcquiring => exact givesBack rfl rfl rfl rfl nofun
  | launchedNothing _ hheld => exact givesBack (by rw [hheld]; rfl) rfl rfl rfl nofun
  | @launched _ first others hcomplete hheld =>
      obtain rfl := (hof.held_eq hcomplete).symm.trans hheld
      have hnot := (Acquisition.complete_iff.mp hcomplete).1
      rw [List.append_nil] at hev
      have hacq : acquiredBy call s'.events = (first :: others).map (·.dataSource) := by
        rw [hev, h.acquired, hheld]
      have hreq : requestedBy call s'.events = (first :: others).map (·.dataSource) := by
        rw [hev, h.requested, ← hev, hacq, hnot]
        simp
      exact ⟨.launched hc' nofun (launched_of_holding hnodup hreq hacq (hev ▸ h.released)
        (holding?_launched hnone hc' hw)) fun talk htalk hcall => absurd hcall (hquiet talk htalk),
        hev ▸ hd⟩

/-- **What is kept by every step about the connections of a call.** -/
theorem Lifecycle.step (h : Lifecycle groups call said s)
    (hnodup : (groups.map (·.dataSource)).Nodup)
    (hd : Disciplined (groups.map (·.dataSource)) call s.events) (hm : s.Moves a s') :
    Lifecycle groups call (said ++ (talk? s a).toList) s' ∧
      Disciplined (groups.map (·.dataSource)) call s'.events := by
  have ht := turn_of_moves hm call
  cases h with
  | acquiring hc hof h hnone hquiet =>
      have hquiet' := forall_talks hquiet (quiet_of_none (a := a) hnone)
      cases ht with
      | others hkept hev hothers hheld _ =>
          rw [hev]
          exact ⟨.acquiring (hkept _ hc) hof (hev ▸ h.others hothers) (hheld ▸ hnone) hquiet',
            hd.others hothers⟩
      | acquires hc₀ hm hc' hev hw _ =>
          cases hc.symm.trans hc₀
          exact Lifecycle.of_acquiring hnodup hof h hnone hquiet' hd hm hc' hev hw
      | goesOn hrun _ _ _ _ | ends hrun _ _ _ _ | stops hrun _ _ _ =>
          cases (hnone _).symm.trans hrun
  | closed hc hover hok hasked hrel hsent hnone hquiet =>
      obtain ⟨⟨more, hev, hothers⟩, hnone'⟩ := ht.quiet hnone hc (not_acquiring_of_isOver hover)
      refine ⟨.closed (isOver_kept hm hc hover) hover hok ?_ ?_ ?_ hnone'
        (forall_talks hquiet (quiet_of_none hnone)), ?_⟩
      · rw [hev]
        exact hasked.quiet (recordedBy_others hothers) (recordedBy_others hothers)
      · simp [hev, hrel, recordedBy_others hothers]
      · simp [hev, hsent, recordedBy_others hothers]
      · rw [hev]
        exact hd.others hothers
  | launched hc hstage h htalks =>
      obtain ⟨stage', hc', hstage'⟩ := exists_stage hm hc hstage
      obtain ⟨h', hd'⟩ := h.turn hd ht fun acq heq => by
        exact hstage acq (Option.some.inj (hc.symm.trans heq))
      refine ⟨.launched hc' hstage' h' (forall_talks htalks ?_), hd'⟩
      rintro talk htalk rfl
      obtain ⟨run, hrun, hsource⟩ := holding?_of_talk htalk
      obtain ⟨hin, hwho, -⟩ := h.holds _ _ hrun
      exact hsource ▸ ⟨hin, hwho⟩

/-- A call that acquires connections is at the beginning of the lifecycle. -/
theorem Lifecycle.of_stage (h : Lifecycle groups call said s)
    (hc : s.calls[call]? = some (.acquiring acq)) :
    acq.Of groups ∧ Acquiring call s.events acq ∧ (∀ w, holding? s call w = none) ∧
      ∀ talk ∈ said, talk.call ≠ call := by
  cases h with
  | acquiring hc' hof h hnone hquiet =>
      obtain rfl := ConnectionStage.acquiring.inj (Option.some.inj (hc.symm.trans hc'))
      exact ⟨hof, h, hnone, hquiet⟩
  | closed hc' hover _ _ _ _ _ _ =>
      exact absurd (Option.some.inj (hc'.symm.trans hc)) (not_acquiring_of_isOver hover acq)
  | launched hc' hstage _ _ => exact absurd (Option.some.inj (hc'.symm.trans hc)) (hstage acq)

/-- A call of which somebody has a connection has been launched. -/
theorem Lifecycle.of_holding (h : Lifecycle groups call said s) {w : Runner} {run : GroupRun}
    (hrun : holding? s call w = some run) :
    ∃ who, Launched (groups.map (·.dataSource)) call who s.events (holding? s call) := by
  cases h with
  | acquiring _ _ _ hnone _ | closed _ _ _ _ _ _ hnone _ => cases (hnone w).symm.trans hrun
  | launched _ _ h _ => exact ⟨_, h⟩

/-- At any time a call has asked for connections in order. -/
theorem Lifecycle.asked (h : Lifecycle groups call said s) :
    Asked (groups.map (·.dataSource)) call s.events := by
  cases h with
  | acquiring _ hof h _ _ => exact h.asked hof
  | closed _ _ _ hasked _ _ _ _ => exact hasked
  | launched _ _ h _ => exact h.asked

/-- All that has been said on a connection was said by one runner. -/
theorem Lifecycle.owner (h : Lifecycle groups call said s) :
    ∃ who : String → Runner, ∀ talk ∈ said, talk.call = call → talk.who = who talk.source := by
  cases h with
  | acquiring _ _ _ _ hquiet | closed _ _ _ _ _ _ _ hquiet =>
      exact ⟨fun _ => .call call, fun talk htalk hcall => absurd hcall (hquiet talk htalk)⟩
  | @launched _ who _ _ _ htalks => exact ⟨who, fun talk htalk hcall => (htalks talk htalk hcall).2⟩

/-- Connections are used when all have come, and not when they have gone back. -/
theorem Lifecycle.used (h : Lifecycle groups call said s) {talk : Talk} (htalk : talk ∈ talk? s a)
    (hcall : talk.call = call) : acquiredBy call s.events = groups.map (·.dataSource) ∧
      talk.source ∈ acquiredBy call s.events ∧ talk.source ∉ releasedBy call s.events := by
  subst hcall
  obtain ⟨run, hrun, hsource⟩ := holding?_of_talk htalk
  obtain ⟨who, h⟩ := h.of_holding hrun
  obtain ⟨hin, -, hout⟩ := h.holds _ _ hrun
  exact ⟨h.acquired, h.acquired ▸ hsource ▸ hin, hsource ▸ hout⟩

/-- A call that has succeeded has got all its connections. -/
theorem Lifecycle.complete (h : Lifecycle groups call said s) {r : Response}
    (hc : s.calls[call]? = some (.ended (.ok r))) :
    acquiredBy call s.events = groups.map (·.dataSource) := by
  cases h with
  | acquiring hc' _ _ _ _ => cases hc.symm.trans hc'
  | closed hc' _ hok hasked _ _ _ _ =>
      obtain rfl := hok r (Option.some.inj (hc'.symm.trans hc))
      exact List.prefix_nil.mp hasked.acquired
  | launched _ _ h _ => exact h.acquired

/-- When the call is over and nobody has a connection of it, all have been given back. -/
theorem Lifecycle.released (h : Lifecycle groups call said s)
    (hnodup : (groups.map (·.dataSource)).Nodup) (hc : s.calls[call]? = some stage)
    (hover : stage.isOver = true) (hnone : ∀ w, holding? s call w = none) :
    (releasedBy call s.events).Perm (acquiredBy call s.events) ∧
      (releasedBy call s.events).Nodup := by
  have hacq : (acquiredBy call s.events).Nodup := hnodup.sublist h.asked.acquired.sublist
  have hperm : (releasedBy call s.events).Perm (acquiredBy call s.events) := by
    cases h with
    | acquiring hc' _ _ _ _ =>
        obtain rfl := Option.some.inj (hc.symm.trans hc')
        cases hover
    | closed _ _ _ _ hrel _ _ _ => rw [hrel]
    | launched _ _ h _ => exact h.perm_released hnodup hnone
  exact ⟨hperm, hperm.nodup_iff.mpr hacq⟩

end

end ScatterGather.Connection
