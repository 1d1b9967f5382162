import Mathlib.Logic.Function.Basic
import ScatterGather.Proofs.Connection.Course
import ScatterGather.Proofs.Dispatch.Resources

/-!
# What a step of an engine means for one call

Whoever runs a group of a call, the call itself or a task, has the connection of that group
(`holding?`) and is the only one to say anything on it (`Talk`). Seen from one call, a step of the
engine is therefore something that others do, a step of the acquisition, or a step of one runner
that goes on with its group or lets go of its connection (`Turn`). What is proved about the
connections of a call goes through `turn_of_moves`, where it does not matter whether a runner has
failed, has been told to stop or was given up.
-/

namespace ScatterGather

/-- The group that a call runs itself. -/
def ConnectionStage.run? : ConnectionStage → Option GroupRun
  | .running run _ => some run
  | _ => none

/-- A call that is over runs no group. -/
theorem ConnectionStage.run?_of_isOver {stage : ConnectionStage} (h : stage.isOver = true) :
    stage.run? = none := by
  cases stage with
  | ended _ | panicked _ | dropped => rfl
  | _ => cases h

/-- A call that begins runs no group. -/
theorem ConnectionEngine.run?_firstStage (route : Route) (keys : Bool) :
    (firstStage route keys).run? = none := by
  rcases firstStage_cases route keys with ⟨-, h⟩ | ⟨-, h⟩ <;> rw [h] <;> rfl

/-- The group of a call with which a task has not come to an end. -/
def GroupTask.runFor? (call : Nat) (t : Worker GroupTask) : Option GroupRun :=
  if t.body.call = call ∧ t.stage.hasEnded = false then some t.body.run else none

/-- The runner of an action. -/
def ConnectionAction.runner? : ConnectionAction → Option Runner
  | .send who | .answer who _ | .finish who => some who
  | _ => none

namespace Connection

/-! ### Who has the connections of a call -/

/-- The group of a call whose connection a runner has. -/
def holding? (s : ConnectionEngine) (call : Nat) : Runner → Option GroupRun
  | .call n => if n = call then s.calls[call]?.bind (·.run?) else none
  | .task n => s.workers.tasks[n]?.bind (GroupTask.runFor? call)

section

variable {s s' : ConnectionEngine} {call n : Nat} {t t' : Worker GroupTask}

/-- Nobody takes or leaves a connection of a call. -/
theorem holding?_same (hc : s'.calls[call]?.bind (·.run?) = s.calls[call]?.bind (·.run?))
    (ht : ∀ n : Nat, s'.workers.tasks[n]?.bind (GroupTask.runFor? call) =
      s.workers.tasks[n]?.bind (GroupTask.runFor? call)) :
    holding? s' call = holding? s call := by
  funext who
  cases who with
  | call n => rw [holding?, holding?, hc]
  | task n => exact ht n

/-- A call goes on with its own group, or leaves it. -/
theorem holding?_call {stage : ConnectionStage} (hc : s'.calls[call]? = some stage)
    (ht : ∀ n : Nat, s'.workers.tasks[n]?.bind (GroupTask.runFor? call) =
      s.workers.tasks[n]?.bind (GroupTask.runFor? call)) :
    holding? s' call = Function.update (holding? s call) (.call call) stage.run? := by
  funext who
  cases who with
  | call n =>
      by_cases hn : n = call
      · subst hn
        simp [holding?, hc]
      · simp [holding?, hn]
  | task n => simpa [holding?] using ht n

/-- A task goes on with its group, or leaves it. -/
theorem holding?_task (ht : s.workers.tasks[n]? = some t) (hcalls : s'.calls = s.calls)
    (htasks : s'.workers.tasks = s.workers.tasks.set n t') :
    holding? s' call =
      Function.update (holding? s call) (.task n) (GroupTask.runFor? call t') := by
  funext who
  cases who with
  | call m => simp [holding?, hcalls]
  | task m =>
      by_cases hm : m = n
      · subst hm
        simp [holding?, htasks, List.getElem?_set_self (List.getElem?_eq_some_iff.mp ht).1]
      · simp [holding?, htasks, hm, List.getElem?_set_ne (Ne.symm hm)]

end

/-! ### What is said -/

end Connection

/-- What is said on a connection. -/
inductive Said where
  | sent (m : SentStatement)
  | answered (u : PhysicalUnit) (a : ConnectionAnswer)
  /-- All units have been answered. -/
  | finished

/-- What is said in the step of a group. -/
def GroupRun.said? (σ : ConnectionStrategy) (run : GroupRun) : ConnectionAction → Option Said
  | .send _ => run.send?.map fun x => .sent ⟨x.1, σ.options x.1 x.1.captures⟩
  | .answer _ a => run.awaited.map fun u => .answered u a
  | .finish _ => if run.complete then some .finished else none
  | _ => none

/-- Something that is said on the connection of a call to a data source, and by whom. -/
structure Talk where
  who : Runner
  call : Nat
  source : String
  said : Said

/-- What is sent on behalf of a call, and to which data source. -/
def Talk.sent? (call : Nat) (talk : Talk) : Option (String × SentStatement) :=
  match talk.said with
  | .sent m => if talk.call = call then some (talk.source, m) else none
  | _ => none

namespace Connection

/-- What is said by an action. -/
def talk? (s : ConnectionEngine) (a : ConnectionAction) : Option Talk := do
  let who ← a.runner?
  let (call, run) ← group? s who
  let said ← run.said? s.settings.strategy a
  return ⟨who, call, run.dataSource, said⟩

/-- What is said along a run, in its order. -/
def talks (s : ConnectionEngine) (actions : List ConnectionAction) : List Talk :=
  emitted ConnectionEngine.step talk? s actions

section

variable {s s' : ConnectionEngine} {a : ConnectionAction} {call n : Nat} {who : Runner}
  {run : GroupRun} {t : Worker GroupTask} {sent : Option PhysicalUnit} {next : GroupRun.Next}

/-- Nothing is said when a call begins. -/
theorem talks_begin (s : ConnectionEngine) (route : Route) (keys : Bool) :
    talks s [.begin route keys] = [] := rfl

/-- What is said with one action more. -/
theorem talks_concat {actions : List ConnectionAction} (h : s.run actions = some s')
    (a : ConnectionAction) : talks s (actions ++ [a]) = talks s actions ++ (talk? s' a).toList :=
  emitted_concat h a

/-- A group goes on by an action of its runner. -/
theorem runner?_of_moves (h : run.Moves s.settings.strategy who a sent next) :
    a.runner? = some who := by
  cases h <;> rfl

/-- What a runner says it says on the connection of its group. -/
theorem talk?_eq (ha : a.runner? = some who) (hg : group? s who = some (call, run)) :
    talk? s a = (run.said? s.settings.strategy a).map fun said =>
      ⟨who, call, run.dataSource, said⟩ := by
  cases h : run.said? s.settings.strategy a <;> simp [talk?, ha, hg, h]

theorem group?_call {tasks : List Nat} (hc : s.calls[call]? = some (.running run tasks)) :
    group? s (.call call) = some (call, run) := by
  simp [group?, hc]

theorem group?_task (ht : s.workers.tasks[n]? = some t) (hs : t.stage = .running)
    (ha : t.aborting = false) : group? s (.task n) = some (t.body.call, t.body.run) := by
  have hrunning := ConnectionEngine.running?_eq_some.mpr ⟨t, ht, hs, ha, rfl⟩
  simp [group?, hrunning]

theorem talk?_of_runner (ha : a.runner? = none) : talk? s a = none := by
  simp [talk?, ha]

/-- Nothing is said by an action that is not a runner's. -/
theorem not_mem_talk? (ha : a.runner? = none) (talk : Talk) : talk ∉ talk? s a := by
  rw [talk?_of_runner ha]
  nofun

/-- What is said in a step of a call is said on one of its own connections. -/
theorem call_of_talk {stage stage' : ConnectionStage} {k : Nat}
    {events : List (DispatchEvent SentStatement)} {actions : List (WorkerAction GroupTask)}
    (hc : s.calls[k]? = some stage) (h : stage.Moves s k a events actions stage') :
    ∀ talk ∈ talk? s a, talk.call = k := by
  intro talk htalk
  cases h with
  | runs h | completes h | fails h | breaks h =>
      rw [talk?_eq (runner?_of_moves h) (group?_call hc)] at htalk
      obtain ⟨said, -, rfl⟩ := Option.map_eq_some_iff.mp htalk
      rfl
  | _ => exact absurd htalk (not_mem_talk? rfl talk)

/-- What is said in a step of a task is said on a connection of its call. -/
theorem call_of_talk_task {events : List (DispatchEvent SentStatement)}
    {actions : List (WorkerAction GroupTask)} (ht : s.workers.tasks[n]? = some t)
    (h : GroupTask.Moves s n t a events actions) : ∀ talk ∈ talk? s a, talk.call = t.body.call := by
  intro talk htalk
  cases h with
  | runs hs ha h | ends hs ha h =>
      rw [talk?_eq (runner?_of_moves h) (group?_task ht hs ha)] at htalk
      obtain ⟨said, -, rfl⟩ := Option.map_eq_some_iff.mp htalk
      rfl
  | requested | started | reaped => exact absurd htalk (not_mem_talk? rfl talk)

/-- Who runs a group has its connection. -/
theorem holding?_of_group (hg : group? s who = some (call, run)) :
    holding? s call who = some run := by
  cases who with
  | call n =>
      simp only [group?] at hg
      split at hg
      · next hc =>
          obtain ⟨rfl, rfl⟩ := Prod.mk.inj (Option.some.inj hg)
          simp [holding?, hc, ConnectionStage.run?]
      · cases hg
  | task n =>
      obtain ⟨body, hbody, hg⟩ := Option.map_eq_some_iff.mp hg
      obtain ⟨t, ht, hs, -, rfl⟩ := ConnectionEngine.running?_eq_some.mp hbody
      obtain ⟨rfl, rfl⟩ := Prod.mk.inj hg
      simp [holding?, ht, GroupTask.runFor?, hs, WorkerStage.hasEnded]

/-- Who says something on a connection runs its group. -/
theorem group?_of_talk {talk : Talk} (h : talk ∈ talk? s a) :
    ∃ run, group? s talk.who = some (talk.call, run) ∧ run.dataSource = talk.source := by
  obtain ⟨who, -, h⟩ := Option.bind_eq_some_iff.mp h
  obtain ⟨⟨call, run⟩, hg, h⟩ := Option.bind_eq_some_iff.mp h
  obtain ⟨said, -, h⟩ := Option.bind_eq_some_iff.mp h
  cases h
  exact ⟨run, hg, rfl⟩

/-- Who says something on a connection has it. -/
theorem holding?_of_talk {talk : Talk} (h : talk ∈ talk? s a) :
    ∃ run, holding? s talk.call talk.who = some run ∧ run.dataSource = talk.source := by
  obtain ⟨run, hg, hsource⟩ := group?_of_talk h
  exact ⟨run, holding?_of_group hg, hsource⟩

end

/-! ### Steps, seen from a call -/

/-- What a step means for a call. -/
inductive Turn (s : ConnectionEngine) (call : Nat) (a : ConnectionAction) (s' : ConnectionEngine) :
    Prop where
  /-- It does not concern the connections of the call. -/
  | others {events} (hkept : ∀ acq, s.calls[call]? = some (.acquiring acq) →
      s'.calls[call]? = some (.acquiring acq))
    (hev : s'.events = s.events ++ events) (hothers : ∀ e ∈ events, e.call ≠ call)
    (hheld : holding? s' call = holding? s call) (htalk : ∀ talk ∈ talk? s a, talk.call ≠ call)
  /-- The call acquires a connection, or begins or gives up to run its groups. -/
  | acquires {acq stage events actions} (hc : s.calls[call]? = some (.acquiring acq))
    (hm : (ConnectionStage.acquiring acq).Moves s call a events actions stage)
    (hc' : s'.calls[call]? = some stage) (hev : s'.events = s.events ++ events)
    (hw : s.workers.run actions = some s'.workers) (htalk : talk? s a = none)
  /-- A runner goes on with its group. -/
  | goesOn {who run run' sent} (hrun : holding? s call who = some run)
    (hm : run.Moves s.settings.strategy who a sent (.goesOn run'))
    (hev : s'.events = s.events ++
      sent.toList.map fun u => .sent call run.dataSource (s.statement u))
    (hheld : holding? s' call = Function.update (holding? s call) who (some run'))
    (htalk : talk? s a = (run.said? s.settings.strategy a).map fun said =>
      ⟨who, call, run.dataSource, said⟩)
  /-- A runner comes to the end of its group and lets go of its connection. -/
  | ends {who run how} (hrun : holding? s call who = some run)
    (hm : run.Moves s.settings.strategy who a none (.ends how))
    (hev : s'.events = s.events ++ [.released call run.dataSource])
    (hheld : holding? s' call = Function.update (holding? s call) who none)
    (htalk : talk? s a = (run.said? s.settings.strategy a).map fun said =>
      ⟨who, call, run.dataSource, said⟩)
  /-- A runner lets go of its connection before that. -/
  | stops {who run} (hrun : holding? s call who = some run)
    (hev : s'.events = s.events ++ [.released call run.dataSource])
    (hheld : holding? s' call = Function.update (holding? s call) who none)
    (htalk : talk? s a = none)

section

variable {s s' : ConnectionEngine} {a : ConnectionAction} {call k n : Nat}
  {stage stage' : ConnectionStage} {t t' : Worker GroupTask}
  {events : List (DispatchEvent SentStatement)} {actions : List (WorkerAction GroupTask)}

/-- What a call records it records in its own name. -/
theorem call_of_event (h : stage.Moves s k a events actions stage') :
    ∀ e ∈ events, e.call = k := by
  cases h with
  | refused _ | droppedAcquiring => exact fun e he => call_of_mem_releases he
  | runs _ =>
      intro e he
      obtain ⟨u, -, rfl⟩ := List.mem_map.mp he
      rfl
  | asked _ | granted _ | completes _ | fails _ | breaks _ | droppedRunning =>
      intro e he
      obtain rfl := List.mem_singleton.mp he
      rfl
  | launched _ _ | launchedNothing _ _ | collected _ _ | collectedFailure _ _ | collectedAll
  | droppedCollecting => nofun

/-- What a task records it records in the name of its call. -/
theorem call_of_event_task (h : GroupTask.Moves s n t a events actions) :
    ∀ e ∈ events, e.call = t.body.call := by
  cases h with
  | runs _ _ _ =>
      intro e he
      obtain ⟨u, -, rfl⟩ := List.mem_map.mp he
      rfl
  | ends _ _ _ | reaped =>
      intro e he
      obtain rfl := List.mem_singleton.mp he
      rfl
  | requested | started => nofun

/-- Only a running task says anything. -/
theorem runner?_of_task (h : GroupTask.Moves s n t a events actions) :
    t.stage = .running ∧ t.aborting = false ∨ a.runner? = none := by
  cases h with
  | runs hs ha _ | ends hs ha _ => exact .inl ⟨hs, ha⟩
  | requested | started | reaped => exact .inr rfl

/-- A call takes no connection from a task, and gives none to a task of another call. -/
theorem runFor?_of_call (h : stage.Moves s k a events actions stage') {w : Workers GroupTask}
    (hw : s.workers.run actions = some w) (hk : k ≠ call ∨ ∀ acq, stage ≠ .acquiring acq)
    (n : Nat) :
    w.tasks[n]?.bind (GroupTask.runFor? call) =
      s.workers.tasks[n]?.bind (GroupTask.runFor? call) := by
  cases hn : s.workers.tasks[n]? with
  | some t =>
      rcases h.task_behind hw hn with h | h
      · rw [h]
      · rw [h]
        rfl
  | none =>
      have hlen := List.getElem?_eq_none_iff.mp hn
      have hold : w.tasks.length = s.workers.tasks.length → w.tasks[n]? = none := fun hw =>
        List.getElem?_eq_none_iff.mpr (hw ▸ hlen)
      cases h with
      | @launched _ _ others _ _ =>
          have hne : k ≠ call := hk.resolve_right fun h => h _ rfl
          rw [tasks_of_spawns hw, List.getElem?_append_right hlen, List.getElem?_map,
            Option.bind_map]
          cases others[n - s.workers.tasks.length]? <;> simp [GroupTask.runFor?, hne]
      | _ => rw [hold (Workers.length_of_run hw (by simp))]

/-- A step of the call itself. -/
theorem turn_of_call (hc : s.calls[call]? = some stage)
    (hm : stage.Moves s call a events actions stage') (hcalls : s'.calls = s.calls.set call stage')
    (hev : s'.events = s.events ++ events) (hw : s.workers.run actions = some s'.workers) :
    Turn s call a s' := by
  have hc' : s'.calls[call]? = some stage' := by
    rw [hcalls, List.getElem?_set_self (List.getElem?_eq_some_iff.mp hc).1]
  have hrun : holding? s call (.call call) = stage.run? := by simp [holding?, hc]
  by_cases hacq : ∃ acq, stage = .acquiring acq
  · obtain ⟨acq, rfl⟩ := hacq
    refine .acquires hc hm hc' hev hw (talk?_of_runner ?_)
    cases hm <;> rfl
  have htasks : ∀ n : Nat, s'.workers.tasks[n]?.bind (GroupTask.runFor? call) =
      s.workers.tasks[n]?.bind (GroupTask.runFor? call) :=
    runFor?_of_call hm hw (.inr fun acq h => hacq ⟨acq, h⟩)
  have hheld := holding?_call hc' htasks
  cases hm with
  | runs h =>
      exact .goesOn hrun h hev hheld (talk?_eq (runner?_of_moves h) (group?_call hc))
  | completes h | fails h | breaks h =>
      exact .ends hrun h hev hheld (talk?_eq (runner?_of_moves h) (group?_call hc))
  | droppedRunning => exact .stops hrun hev hheld (talk?_of_runner rfl)
  | collected _ _ | collectedFailure _ _ | collectedAll | droppedCollecting =>
      refine .others (fun acq heq => ?_) hev (by simp) (holding?_same (by rw [hc, hc']; rfl) htasks)
        fun talk htalk => absurd htalk (not_mem_talk? rfl talk)
      cases hc.symm.trans heq
  | asked _ | granted _ | refused _ | launched _ _ | launchedNothing _ _ | droppedAcquiring =>
      exact absurd ⟨_, rfl⟩ hacq

/-- A step of a task of the call. -/
theorem turn_of_task (ht : s.workers.tasks[n]? = some t)
    (hm : GroupTask.Moves s n t a events actions) (hcalls : s'.calls = s.calls)
    (hev : s'.events = s.events ++ events) (hw : s.workers.run actions = some s'.workers) :
    Turn s t.body.call a s' := by
  obtain ⟨t', htasks, hs⟩ := hm.steps ht hw
  have hheld : ∀ x, GroupTask.runFor? t.body.call t' = x →
      holding? s' t.body.call = Function.update (holding? s t.body.call) (.task n) x := by
    rintro x rfl
    exact holding?_task ht hcalls htasks
  have hrun : holding? s t.body.call (.task n) = some t.body.run := by
    simp [holding?, ht, GroupTask.runFor?, hs.hasEnded]
  have hquiet := runner?_of_task hm
  cases hs with
  | runs hst ha h =>
      exact .goesOn hrun h hev (hheld _ (if_pos ⟨rfl, by rw [hst]; rfl⟩))
        (talk?_eq (runner?_of_moves h) (group?_task ht hst ha))
  | ends hst ha h =>
      exact .ends hrun h hev (hheld _ (if_neg nofun))
        (talk?_eq (runner?_of_moves h) (group?_task ht hst ha))
  | requested hst ha | started hst ha _ =>
      have hnone := hquiet.resolve_left fun h => by rw [hst] at h; cases h.1
      refine .others (fun acq heq => hcalls ▸ heq) hev (by simp) ?_
        fun talk htalk => absurd htalk (not_mem_talk? hnone talk)
      rw [hheld _ (if_pos ⟨rfl, rfl⟩), ← hrun, Function.update_eq_self]
  | reaped he ha =>
      have hnone := hquiet.resolve_left fun h => by rw [ha] at h; cases h.2
      exact .stops hrun hev (hheld _ (if_neg nofun)) (talk?_of_runner hnone)

/-- **Every step of an engine is a turn for every call.** -/
theorem turn_of_moves (h : s.Moves a s') (call : Nat) : Turn s call a s' := by
  cases h with
  | @begin route keys ha hcalls hev hw =>
      subst ha
      refine .others (fun acq heq => hcalls ▸ getElem?_append_of_eq_some heq)
        (by rw [hev, List.append_nil]) (by simp) (holding?_same ?_ ?_)
        fun talk htalk => absurd htalk (not_mem_talk? rfl talk)
      · rw [hcalls]
        by_cases hlt : call < s.calls.length
        · rw [List.getElem?_append_left hlt]
        · rw [List.getElem?_append_right (Nat.le_of_not_lt hlt),
            List.getElem?_eq_none_iff.mpr (Nat.le_of_not_lt hlt), List.getElem?_singleton]
          split
          · exact ConnectionEngine.run?_firstStage route keys
          · rfl
      · rw [hw]
        exact fun _ => rfl
  | @call k stage stage' events actions hc hm hcalls hev hw =>
      by_cases hk : k = call
      · subst hk
        exact turn_of_call hc hm hcalls hev hw
      · have hkept : s'.calls[call]? = s.calls[call]? := by rw [hcalls, List.getElem?_set_ne hk]
        exact .others (fun acq heq => hkept.trans heq) hev
          (fun e he heq => hk ((call_of_event hm e he).symm.trans heq))
          (holding?_same (by rw [hkept]) (runFor?_of_call hm hw (.inl hk)))
          fun talk htalk heq => hk ((call_of_talk hc hm talk htalk).symm.trans heq)
  | @task n t events actions ht hm hcalls hev hw =>
      by_cases hcall : t.body.call = call
      · exact hcall ▸ turn_of_task ht hm hcalls hev hw
      · obtain ⟨t', htasks, hs⟩ := hm.steps ht hw
        have hnone : ∀ u : Worker GroupTask, u.body.call = t.body.call →
            GroupTask.runFor? call u = none := fun u hu => by
          simp [GroupTask.runFor?, hu, hcall]
        refine .others (fun acq heq => hcalls ▸ heq) hev
          (fun e he heq => hcall ((call_of_event_task hm e he).symm.trans heq)) ?_
          fun talk htalk heq => hcall ((call_of_talk_task ht hm talk htalk).symm.trans heq)
        rw [holding?_task ht hcalls htasks, hnone t' hs.call_eq]
        apply Function.update_eq_self_iff.mpr
        simp [holding?, ht, hnone t rfl]

/-- What others say sends nothing for a call. -/
theorem sent?_others {said : List Talk} (h : ∀ talk ∈ said, talk.call ≠ call) :
    said.filterMap (Talk.sent? call) = [] := by
  refine List.filterMap_eq_nil_iff.mpr fun talk htalk => ?_
  unfold Talk.sent?
  split
  · exact if_neg (h talk htalk)
  · rfl

/-- What is sent is said. -/
theorem Turn.sentBy_eq (h : Turn s call a s') :
    sentBy call s'.events =
      sentBy call s.events ++ (talk? s a).toList.filterMap (Talk.sent? call) := by
  cases h with
  | others _ hev hothers _ htalk =>
      simp only [hev, recordedBy_append, recordedBy_others hothers,
        sent?_others fun talk hmem => htalk talk (Option.mem_toList.mp hmem)]
  | acquires _ hm _ hev _ htalk =>
      rw [hev, htalk]
      cases hm with
      | refused _ | droppedAcquiring => simp
      | _ => simp [recordedBy]
  | goesOn _ hm hev _ htalk =>
      rw [hev, htalk]
      cases hm with
      | sends ha hr =>
          simp [GroupRun.said?, GroupRun.send?, ha, hr, Talk.sent?, ConnectionEngine.statement]
      | keeps ha _ => simp [GroupRun.said?, ha, Talk.sent?]
  | ends _ hm hev _ htalk =>
      rw [hev, htalk]
      cases hm with
      | fails ha _ | panics ha => simp [GroupRun.said?, ha, Talk.sent?]
      | completes ha hr => simp [GroupRun.said?, GroupRun.complete, ha, hr, Talk.sent?]
  | stops _ hev _ htalk => simp [hev, htalk]

end

end Connection

end ScatterGather
