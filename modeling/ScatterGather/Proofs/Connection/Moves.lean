import ScatterGather.Connection.Engine
import ScatterGather.Proofs.Connection.InTurn
import ScatterGather.Proofs.Worker.Moves

/-!
# What a connection engine can do in one step

A step of a `ConnectionEngine` is the beginning of a call, a step of one call, or a step of one task
(`ConnectionEngine.Moves`). Calls and tasks run their groups in the same way (`GroupRun.Moves`), and
what a step does to the pool it does by actions of `Workers`. Everything that is proved about
connections goes through `ConnectionEngine.moves_of_step` and never opens the step again.
-/

namespace ScatterGather

/-! ### The moves of a group -/

/-- How a group has ended. -/
inductive GroupEnd where
  | completed
  | failed (e : ExecutionError)
  | panicked (message : String)

namespace GroupEnd

/-- What a task has come to whose group has ended. -/
def result (run : GroupRun) : GroupEnd → Option (Except ExecutionError (List Success))
  | .completed => some (.ok run.outcomes)
  | .failed e => some (.error e)
  | .panicked _ => none

/-- How a task ends whose group has ended. -/
def worker : GroupEnd → WorkerEnd
  | .completed | .failed _ => .finished
  | .panicked message => .panicked message

end GroupEnd

/-- What a step of its runner makes of a group. -/
inductive GroupRun.Next where
  | goesOn (run : GroupRun)
  | ends (how : GroupEnd)

/-- The next step of a group: the action, the unit that is sent by it, and what becomes of the
group. -/
inductive GroupRun.Moves (σ : ConnectionStrategy) (who : Runner) (run : GroupRun) :
    ConnectionAction → Option PhysicalUnit → GroupRun.Next → Prop where
  | sends {u rest} (ha : run.awaited = none) (hr : run.rest = u :: rest) :
    Moves σ who run (.send who) (some u) (.goesOn { run with rest, awaited := some u })
  | keeps {u r x} (ha : run.awaited = some u) (hk : σ.keepAnswer u r = .ok x) :
    Moves σ who run (.answer who (.result r)) none
      (.goesOn { run with awaited := none, outcomes := run.outcomes ++ [x] })
  | fails {u r e} (ha : run.awaited = some u) (hk : σ.keepAnswer u r = .error e) :
    Moves σ who run (.answer who (.result r)) none (.ends (.failed e))
  | panics {u message} (ha : run.awaited = some u) :
    Moves σ who run (.answer who (.panic message)) none (.ends (.panicked message))
  | completes (ha : run.awaited = none) (hr : run.rest = []) :
    Moves σ who run (.finish who) none (.ends .completed)

namespace GroupRun

variable {run run' : GroupRun} {u : PhysicalUnit} {σ : ConnectionStrategy}
  {r : Except ExecutionError Outcome}

/-- A group stays with its data source. -/
theorem Moves.dataSource_eq {who : Runner} {a : ConnectionAction} {sent : Option PhysicalUnit}
    (h : run.Moves σ who a sent (.goesOn run')) : run'.dataSource = run.dataSource := by
  cases h <;> rfl

/-- A unit is sent when none is awaited and there is one left. -/
theorem moves_of_send? {who : Runner} (h : run.send? = some (u, run')) :
    run.Moves σ who (.send who) (some u) (.goesOn run') := by
  unfold send? at h
  split at h
  · next ha hr =>
      cases h
      exact .sends ha hr
  · cases h

/-- What an answer makes of a group whose unit it answers. -/
theorem receive?_eq (ha : run.awaited = some u) :
    run.receive? σ r = some do
      let kept ← σ.keepAnswer u r
      return { run with awaited := none, outcomes := run.outcomes ++ [kept] } := by
  cases r <;> simp only [receive?, ha] <;> rfl

/-- A unit that is awaited is answered: it is kept, or the group fails. -/
theorem moves_of_receive? (who : Runner) {x : Except ExecutionError GroupRun}
    (h : run.receive? σ r = some x) :
    match x with
    | .ok run' => run.Moves σ who (.answer who (.result r)) none (.goesOn run')
    | .error e => run.Moves σ who (.answer who (.result r)) none (.ends (.failed e)) := by
  obtain ⟨u, ha, -⟩ := Option.bind_eq_some_iff.mp h
  rw [receive?_eq ha] at h
  cases hk : σ.keepAnswer u r with
  | ok kept =>
      rw [hk] at h
      cases h
      exact .keeps ha hk
  | error e =>
      rw [hk] at h
      cases h
      exact .fails ha hk

/-- A group is complete when no unit is awaited and none is left. -/
theorem complete_iff : run.complete = true ↔ run.awaited = none ∧ run.rest = [] := by
  simp [complete]

end GroupRun

/-! ### The moves of calls and tasks -/

/-- The next step of a call: the action, the stage before it, what happens by it, what it does to
the tasks, and the stage behind it. -/
inductive ConnectionStage.Moves (s : ConnectionEngine) (call : Nat) : ConnectionAction →
    ConnectionStage → List (DispatchEvent SentStatement) → List (WorkerAction GroupTask) →
    ConnectionStage → Prop where
  | asked {a a' source} (h : a.ask? = some (source, a')) :
    Moves s call (.ask call) (.acquiring a) [.requested call source] [] (.acquiring a')
  | granted {a a' source} (h : a.grant? = some (source, a')) :
    Moves s call (.acquired call none) (.acquiring a) [.acquired call source] [] (.acquiring a')
  | refused {a a' source e} (h : a.grant? = some (source, a')) :
    Moves s call (.acquired call (some e)) (.acquiring a) (Acquisition.releases call a.held) []
      (.ended (.error e))
  | launched {a first others} (h : a.complete = true) (hh : a.held = first :: others) :
    Moves s call (.launch call) (.acquiring a) []
      (others.map fun g => .spawn ⟨call, .ofGroup g, none⟩)
      (.running (.ofGroup first) (List.range' s.workers.tasks.length others.length))
  | launchedNothing {a} (h : a.complete = true) (hh : a.held = []) :
    Moves s call (.launch call) (.acquiring a) [] [] (.ended (.error (.invalidState .noGroups)))
  | runs {action run run' tasks sent}
    (h : run.Moves s.settings.strategy (.call call) action sent (.goesOn run')) :
    Moves s call action (.running run tasks)
      (sent.toList.map fun u => .sent call run.dataSource (s.statement u)) [] (.running run' tasks)
  | completes {action run tasks}
    (h : run.Moves s.settings.strategy (.call call) action none (.ends .completed)) :
    Moves s call action (.running run tasks) [.released call run.dataSource] []
      (.collecting run.outcomes tasks)
  | fails {action run tasks e}
    (h : run.Moves s.settings.strategy (.call call) action none (.ends (.failed e))) :
    Moves s call action (.running run tasks) [.released call run.dataSource] (tasks.map .abort)
      (.ended (.error e))
  | breaks {action run tasks message}
    (h : run.Moves s.settings.strategy (.call call) action none (.ends (.panicked message))) :
    Moves s call action (.running run tasks) [.released call run.dataSource] []
      (.panicked message)
  | collected {outcomes task rest t more} (ht : s.workers.tasks[task]? = some t)
    (hc : ConnectionEngine.collected t = some (.ok more)) :
    Moves s call (.collect call) (.collecting outcomes (task :: rest)) [] []
      (.collecting (outcomes ++ more) rest)
  | collectedFailure {outcomes task rest t e} (ht : s.workers.tasks[task]? = some t)
    (hc : ConnectionEngine.collected t = some (.error e)) :
    Moves s call (.collect call) (.collecting outcomes (task :: rest)) [] (rest.map .abort)
      (.ended (.error e))
  | collectedAll {outcomes} :
    Moves s call (.collect call) (.collecting outcomes []) [] []
      (.ended (Response.ofUnits outcomes))
  | droppedAcquiring {a} :
    Moves s call (.drop call) (.acquiring a) (Acquisition.releases call a.held) [] .dropped
  | droppedRunning {run tasks} :
    Moves s call (.drop call) (.running run tasks) [.released call run.dataSource] [] .dropped
  | droppedCollecting {outcomes tasks} :
    Moves s call (.drop call) (.collecting outcomes tasks) [] [] .dropped

/-- The next step of a task: the action, what happens by it, and what it does to the tasks. -/
inductive GroupTask.Moves (s : ConnectionEngine) (n : Nat) (t : Worker GroupTask) :
    ConnectionAction → List (DispatchEvent SentStatement) → List (WorkerAction GroupTask) →
    Prop where
  | runs {action run' sent} (hs : t.stage = .running) (ha : t.aborting = false)
    (h : t.body.run.Moves s.settings.strategy (.task n) action sent (.goesOn run')) :
    Moves s n t action
      (sent.toList.map fun u => .sent t.body.call t.body.run.dataSource (s.statement u))
      [.work n { t.body with run := run' }]
  | ends {action how} (hs : t.stage = .running) (ha : t.aborting = false)
    (h : t.body.run.Moves s.settings.strategy (.task n) action none (.ends how)) :
    Moves s n t action [.released t.body.call t.body.run.dataSource]
      [.work n { t.body with result := how.result t.body.run }, .finish n how.worker]
  | requested : Moves s n t (.request n) [] [.request n]
  | started : Moves s n t (.start n) [] [.start n]
  | reaped : Moves s n t (.reap n) [.released t.body.call t.body.run.dataSource] [.reap n]

/-! ### The moves of an engine -/

namespace ConnectionEngine

/-- What an action does to an engine. -/
inductive Moves (s : ConnectionEngine) (a : ConnectionAction) (s' : ConnectionEngine) : Prop where
  | begin {route keys} (ha : a = .begin route keys)
    (hcalls : s'.calls = s.calls ++ [firstStage route keys]) (hev : s'.events = s.events)
    (hw : s'.workers = s.workers)
  | call {call stage stage' events actions} (hc : s.calls[call]? = some stage)
    (hm : stage.Moves s call a events actions stage')
    (hcalls : s'.calls = s.calls.set call stage') (hev : s'.events = s.events ++ events)
    (hw : s.workers.run actions = some s'.workers)
  | task {n t events actions} (ht : s.workers.tasks[n]? = some t)
    (hm : GroupTask.Moves s n t a events actions) (hcalls : s'.calls = s.calls)
    (hev : s'.events = s.events ++ events) (hw : s.workers.run actions = some s'.workers)

variable {s s' : ConnectionEngine} {a : ConnectionAction} {call n : Nat} {t : Worker GroupTask}

/-! #### Actions of the pool -/

theorem run_spawns (w : Workers GroupTask) (call : Nat) (groups : List UnitGroup) :
    w.run (groups.map fun g => .spawn ⟨call, .ofGroup g, none⟩) =
      some (groups.foldl (fun w g => w.spawn ⟨call, .ofGroup g, none⟩) w) := by
  induction groups generalizing w with
  | nil => rfl
  | cons g groups ih => exact ih _

theorem run_aborts (w : Workers GroupTask) (tasks : List Nat) :
    w.run (tasks.map .abort) = some (tasks.foldl Workers.abort w) := by
  induction tasks generalizing w with
  | nil => rfl
  | cons task tasks ih => exact ih _

/-- The task that runs under a number. -/
theorem running?_eq_some {body : GroupTask} :
    s.running? n = some body ↔ ∃ t, s.workers.tasks[n]? = some t ∧ t.stage = .running ∧
      t.aborting = false ∧ t.body = body := by
  simp [running?, Workers.at?_eq_some, and_assoc]

/-- A running task goes on with its work. -/
theorem run_work (ht : s.workers.tasks[n]? = some t) (hs : t.stage = .running)
    (ha : t.aborting = false) {f : GroupTask → GroupTask} {w : Workers GroupTask}
    (h : s.workers.work? n (fun body => some (f body)) = some w) :
    s.workers.run [.work n (f t.body)] = some w := by
  have hat : s.workers.at? n .running = some t := Workers.at?_eq_some.mpr ⟨ht, hs, ha⟩
  have hstep : s.workers.step (.work n (f t.body)) = some w := by
    simpa [Workers.step, Workers.work?, hat] using h
  exact foldlM_cons_eq_some.mpr ⟨w, hstep, rfl⟩

/-! #### Every step is a move -/

/-- A call that is put at a stage makes a move. -/
theorem moves_setCall {stage stage' : ConnectionStage} {t : ConnectionEngine}
    {events : List (DispatchEvent SentStatement)} {actions : List (WorkerAction GroupTask)}
    (hc : s.calls[call]? = some stage) (hm : stage.Moves s call a events actions stage')
    (hcalls : t.calls = s.calls) (hset : t.settings = s.settings)
    (hev : t.events = s.events ++ events) (hw : s.workers.run actions = some t.workers) :
    s.Moves a (t.setCall call stage') ∧ (t.setCall call stage').settings = s.settings :=
  ⟨.call hc hm (by rw [setCall, hcalls]) hev hw, hset⟩

/-- A task whose group ends makes a move. -/
theorem moves_of_endTask (ht : s.workers.tasks[n]? = some t) (hs : t.stage = .running)
    (ha : t.aborting = false) {how : GroupEnd}
    (hm : t.body.run.Moves s.settings.strategy (.task n) a none (.ends how))
    (h : s.endTask n t.body (how.result t.body.run) how.worker = some s') :
    s.Moves a s' ∧ s'.settings = s.settings := by
  obtain ⟨w, hw, h⟩ := Option.bind_eq_some_iff.mp h
  obtain ⟨w', hfinish, h⟩ := Option.bind_eq_some_iff.mp h
  cases h
  have hwork := run_work (f := fun body => { body with result := how.result t.body.run })
    ht hs ha hw
  have hstep : w.step (.finish n how.worker) = some w' := hfinish
  have hrun : s.workers.run [.work n { t.body with result := how.result t.body.run },
      .finish n how.worker] = some w' :=
    foldlM_concat_eq_some.mpr ⟨w, hwork, hstep⟩
  exact ⟨.task ht (.ends hs ha hm) rfl rfl hrun, rfl⟩

/-- A task that goes on with its group makes a move. -/
theorem moves_of_work (ht : s.workers.tasks[n]? = some t) (hs : t.stage = .running)
    (ha : t.aborting = false) {run' : GroupRun} {sent : Option PhysicalUnit}
    (hm : t.body.run.Moves s.settings.strategy (.task n) a sent (.goesOn run'))
    {w : Workers GroupTask} (hw : s.workers.work? n (fun t => some { t with run := run' }) = some w)
    (hcalls : s'.calls = s.calls) (hset : s'.settings = s.settings)
    (hev : s'.events = s.events ++
      sent.toList.map fun u => .sent t.body.call t.body.run.dataSource (s.statement u))
    (hworkers : s'.workers = w) : s.Moves a s' ∧ s'.settings = s.settings :=
  ⟨.task ht (.runs hs ha hm) hcalls hev
    (hworkers ▸ run_work (f := fun body => { body with run := run' }) ht hs ha hw), hset⟩

/-- What a task does to the pool alone is a move. -/
theorem moves_of_pool (ht : s.workers.tasks[n]? = some t)
    {events : List (DispatchEvent SentStatement)} {action : WorkerAction GroupTask}
    {w : Workers GroupTask} (hm : GroupTask.Moves s n t a events [action])
    (hw : s.workers.step action = some w) (hcalls : s'.calls = s.calls)
    (hset : s'.settings = s.settings) (hev : s'.events = s.events ++ events)
    (hworkers : s'.workers = w) : s.Moves a s' ∧ s'.settings = s.settings :=
  ⟨.task ht hm hcalls hev (hworkers ▸ foldlM_cons_eq_some.mpr ⟨w, hw, rfl⟩), hset⟩

/-- A call that holds all its connections is launched. -/
theorem moves_of_launch {acq : Acquisition} (hc : s.calls[call]? = some (.acquiring acq))
    (h : acq.complete = true) :
    s.Moves (.launch call) (s.launch call acq.held) ∧
      (s.launch call acq.held).settings = s.settings := by
  unfold launch
  split
  · next hheld =>
      exact moves_setCall hc (.launchedNothing h hheld) rfl rfl (List.append_nil _).symm rfl
  · next first others hheld =>
      exact moves_setCall hc (.launched h hheld) rfl rfl (List.append_nil _).symm (run_spawns ..)

/-- An answer to the group of a call. -/
theorem moves_of_answerCall {run : GroupRun} {tasks : List Nat} {answer : ConnectionAnswer}
    (hc : s.calls[call]? = some (.running run tasks))
    (h : s.answerCall call run tasks answer = some s') :
    s.Moves (.answer (.call call) answer) s' ∧ s'.settings = s.settings := by
  cases answer with
  | panic message =>
      simp only [answerCall] at h
      split at h
      · next hu =>
          obtain ⟨u, hu⟩ := Option.isSome_iff_exists.mp hu
          cases h
          exact moves_setCall hc (.breaks (.panics hu)) rfl rfl rfl rfl
      · cases h
  | result r =>
      obtain ⟨x, hx, h⟩ := Option.bind_eq_some_iff.mp h
      have hm := GroupRun.moves_of_receive? (.call call) hx
      cases x with
      | ok run' =>
          cases h
          exact moves_setCall hc (.runs hm) rfl rfl (List.append_nil _).symm rfl
      | error e =>
          cases h
          exact moves_setCall hc (.fails hm) rfl rfl rfl (run_aborts ..)

/-- An answer to the group of a task. -/
theorem moves_of_answerTask {answer : ConnectionAnswer} (ht : s.workers.tasks[n]? = some t)
    (hs : t.stage = .running) (ha : t.aborting = false)
    (h : s.answerTask n t.body answer = some s') :
    s.Moves (.answer (.task n) answer) s' ∧ s'.settings = s.settings := by
  cases answer with
  | panic message =>
      obtain ⟨u, hu, h⟩ := Option.bind_eq_some_iff.mp h
      exact moves_of_endTask ht hs ha (.panics hu) h
  | result r =>
      obtain ⟨x, hx, h⟩ := Option.bind_eq_some_iff.mp h
      have hm := GroupRun.moves_of_receive? (.task n) hx
      cases x with
      | ok run' =>
          obtain ⟨w, hw, h⟩ := Option.bind_eq_some_iff.mp h
          cases h
          exact moves_of_work ht hs ha hm hw rfl rfl (List.append_nil _).symm rfl
      | error e => exact moves_of_endTask ht hs ha hm h

/-- A call collects a task, or comes to its response. -/
theorem moves_of_collect {outcomes : List Success} {tasks : List Nat}
    (hc : s.calls[call]? = some (.collecting outcomes tasks))
    (h : s.collect call outcomes tasks = some s') :
    s.Moves (.collect call) s' ∧ s'.settings = s.settings := by
  cases tasks with
  | nil =>
      cases h
      exact moves_setCall hc .collectedAll rfl rfl (List.append_nil _).symm rfl
  | cons task rest =>
      obtain ⟨t, ht, h⟩ := Option.bind_eq_some_iff.mp h
      obtain ⟨x, hx, h⟩ := Option.bind_eq_some_iff.mp h
      cases x with
      | ok more =>
          cases h
          exact moves_setCall hc (.collected ht hx) rfl rfl (List.append_nil _).symm rfl
      | error e =>
          cases h
          exact moves_setCall hc (.collectedFailure ht hx) rfl rfl (List.append_nil _).symm
            (run_aborts ..)

/-- A call that is given up. -/
theorem moves_of_drop? {stage : ConnectionStage} (hc : s.calls[call]? = some stage)
    (h : s.drop? call stage = some s') : s.Moves (.drop call) s' ∧ s'.settings = s.settings := by
  cases stage with
  | acquiring _ =>
      cases h
      exact moves_setCall hc .droppedAcquiring rfl rfl rfl rfl
  | running _ _ =>
      cases h
      exact moves_setCall hc .droppedRunning rfl rfl rfl rfl
  | collecting _ _ =>
      cases h
      exact moves_setCall hc .droppedCollecting rfl rfl (List.append_nil _).symm rfl
  | ended _ | panicked _ | dropped => cases h

/-- **Every step of an engine is one of its moves**, and leaves its settings as they are. -/
theorem moves_of_step (h : s.step a = some s') : s.Moves a s' ∧ s'.settings = s.settings := by
  cases a with
  | begin route keys =>
      cases h
      exact ⟨.begin rfl rfl rfl rfl, rfl⟩
  | ask call =>
      obtain ⟨stage, hc, h⟩ := Option.bind_eq_some_iff.mp h
      split at h
      · obtain ⟨⟨source, a'⟩, ha, h⟩ := Option.bind_eq_some_iff.mp h
        cases h
        exact moves_setCall hc (.asked ha) rfl rfl rfl rfl
      · cases h
  | acquired call refusal =>
      obtain ⟨stage, hc, h⟩ := Option.bind_eq_some_iff.mp h
      split at h
      · obtain ⟨⟨source, a'⟩, ha, h⟩ := Option.bind_eq_some_iff.mp h
        cases refusal with
        | none =>
            cases h
            exact moves_setCall hc (.granted ha) rfl rfl rfl rfl
        | some e =>
            cases h
            exact moves_setCall hc (.refused ha) rfl rfl rfl rfl
      · cases h
  | launch call =>
      obtain ⟨stage, hc, h⟩ := Option.bind_eq_some_iff.mp h
      split at h
      · split at h
        · next hcomplete =>
            cases h
            exact moves_of_launch hc hcomplete
        · cases h
      · cases h
  | send who =>
      cases who with
      | call call =>
          obtain ⟨stage, hc, h⟩ := Option.bind_eq_some_iff.mp h
          split at h
          · obtain ⟨⟨u, run'⟩, hsend, h⟩ := Option.bind_eq_some_iff.mp h
            cases h
            exact moves_setCall hc (.runs (GroupRun.moves_of_send? hsend)) rfl rfl rfl rfl
          · cases h
      | task n =>
          obtain ⟨body, hbody, h⟩ := Option.bind_eq_some_iff.mp h
          obtain ⟨t, ht, hs, ha, rfl⟩ := running?_eq_some.mp hbody
          obtain ⟨⟨u, run'⟩, hsend, h⟩ := Option.bind_eq_some_iff.mp h
          obtain ⟨w, hw, h⟩ := Option.bind_eq_some_iff.mp h
          cases h
          exact moves_of_work ht hs ha (GroupRun.moves_of_send? hsend) hw rfl rfl rfl rfl
  | answer who answer =>
      cases who with
      | call call =>
          obtain ⟨stage, hc, h⟩ := Option.bind_eq_some_iff.mp h
          split at h
          · exact moves_of_answerCall hc h
          · cases h
      | task n =>
          obtain ⟨body, hbody, h⟩ := Option.bind_eq_some_iff.mp h
          obtain ⟨t, ht, hs, ha, rfl⟩ := running?_eq_some.mp hbody
          exact moves_of_answerTask ht hs ha h
  | finish who =>
      cases who with
      | call call =>
          obtain ⟨stage, hc, h⟩ := Option.bind_eq_some_iff.mp h
          split at h
          · split at h
            · next hcomplete =>
                obtain ⟨ha, hr⟩ := GroupRun.complete_iff.mp hcomplete
                cases h
                exact moves_setCall hc (.completes (.completes ha hr)) rfl rfl rfl rfl
            · cases h
          · cases h
      | task n =>
          obtain ⟨body, hbody, h⟩ := Option.bind_eq_some_iff.mp h
          obtain ⟨t, ht, hs, ha, rfl⟩ := running?_eq_some.mp hbody
          split at h
          · next hcomplete =>
              obtain ⟨haw, hr⟩ := GroupRun.complete_iff.mp hcomplete
              exact moves_of_endTask ht hs ha (.completes haw hr) h
          · cases h
  | collect call =>
      obtain ⟨stage, hc, h⟩ := Option.bind_eq_some_iff.mp h
      split at h
      · exact moves_of_collect hc h
      · cases h
  | request n =>
      obtain ⟨w, hw, h⟩ := Option.bind_eq_some_iff.mp h
      cases h
      obtain ⟨t, ht, -⟩ := Option.bind_eq_some_iff.mp hw
      exact moves_of_pool (Workers.at?_eq_some.mp ht).1 .requested hw rfl rfl
        (List.append_nil _).symm rfl
  | start n =>
      obtain ⟨w, hw, h⟩ := Option.bind_eq_some_iff.mp h
      cases h
      obtain ⟨t, ht, -⟩ := Option.bind_eq_some_iff.mp hw
      exact moves_of_pool (Workers.at?_eq_some.mp ht).1 .started hw rfl rfl
        (List.append_nil _).symm rfl
  | reap n =>
      obtain ⟨t, ht, h⟩ := Option.bind_eq_some_iff.mp h
      obtain ⟨w, hw, h⟩ := Option.bind_eq_some_iff.mp h
      cases h
      exact moves_of_pool ht .reaped hw rfl rfl rfl rfl
  | drop call =>
      obtain ⟨stage, hc, h⟩ := Option.bind_eq_some_iff.mp h
      exact moves_of_drop? hc h

end ConnectionEngine

end ScatterGather
