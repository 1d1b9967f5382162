import Mathlib.Algebra.Ring.Nat
import ScatterGather.Proofs.Connection.Course
import ScatterGather.Proofs.Connection.Runners

/-!
# Calls over connections come to an end

As long as a call is not over, something can happen: the call itself goes on, or the task that it is
to collect, or, while that task queues, one that holds a permit (`OnCourse.exists_step`). Whatever
happens but the beginning of a new call makes the work less that is left to do
(`ConnectionEngine.Moves.work_lt`). So a call that has not been given up can be brought to its end
(`OnCourse.canEnd`).
-/

namespace ScatterGather.Connection

/-- An action by which calls go on: nothing is refused, given up or broken by it, and no call
begins. -/
inductive GoesOn : ConnectionAction → Prop where
  | ask {call} : GoesOn (.ask call)
  | acquired {call} : GoesOn (.acquired call none)
  | launch {call} : GoesOn (.launch call)
  | send {who} : GoesOn (.send who)
  | answer {who r} : GoesOn (.answer who (.result r))
  | finish {who} : GoesOn (.finish who)
  | collect {call} : GoesOn (.collect call)
  | request {n} : GoesOn (.request n)
  | start {n} : GoesOn (.start n)
  | reap {n} : GoesOn (.reap n)

/-- Something can happen by which calls go on, and every connection answers as it does. -/
def CanStep (answers : ConnectionAnswers) (s : ConnectionEngine) : Prop :=
  ∃ a s', s.step a = some s' ∧ GoesOn a ∧ ∀ call, AnswersAs answers call s a

/-! ### What can happen next -/

section

variable {s : ConnectionEngine} {call n : Nat} {t : Worker GroupTask}

/-- Nothing is exchanged but by an answer. -/
theorem answersAs_of_none {answers : ConnectionAnswers} {a : ConnectionAction}
    (h : exchange? s a = none) (call : Nat) : AnswersAs answers call s a := by
  intro x hx
  rw [h] at hx
  cases hx

/-- The answer that a connection gives. -/
theorem exists_answer (answers : ConnectionAnswers) (who : Runner) :
    ∃ r, ∀ call, AnswersAs answers call s (.answer who (.result r)) := by
  cases hg : group? s who with
  | none => exact ⟨.error default, answersAs_of_none (by simp [exchange?, hg])⟩
  | some x =>
      obtain ⟨call, run⟩ := x
      cases hu : run.awaited with
      | none => exact ⟨.error default, answersAs_of_none (by simp [exchange?, hg, hu])⟩
      | some u =>
          refine ⟨answers run.dataSource (unitsOn call run.dataSource s.events).dropLast u, ?_⟩
          intro call' x hx _
          simp only [exchange?, hg, Option.bind_eq_bind, Option.bind_some, hu] at hx
          cases hx
          rfl

/-- What a call or a task does by itself it does to go on, without an exchange. -/
theorem goesOn_of_next? {who : Runner} {a : ConnectionAction} (h : s.next? who = some (.act a)) :
    GoesOn a ∧ exchange? s a = none := by
  have hgroup : ∀ {who call run}, s.nextOfGroup who call run = .act a →
      GoesOn a ∧ exchange? s a = none := by
    intro who call run h
    unfold ConnectionEngine.nextOfGroup at h
    split at h
    · cases h
    · cases h
    · cases h
      exact ⟨.finish, rfl⟩
  cases who with
  | call call =>
      obtain ⟨stage, hc, h⟩ := Option.bind_eq_some_iff.mp h
      unfold ConnectionEngine.nextOfCall at h
      split at h
      · split at h
        · cases h
        · cases h
          exact ⟨.launch, rfl⟩
        · cases h
          exact ⟨.ask, rfl⟩
      · exact hgroup (Option.some.inj h)
      · cases h
        exact ⟨.collect, rfl⟩
      · cases h
  | task n =>
      obtain ⟨t, ht, h⟩ := Option.bind_eq_some_iff.mp h
      unfold ConnectionEngine.nextOfTask at h
      split at h
      · cases h
      · split at h
        · cases h
          exact ⟨.reap, rfl⟩
        · split at h
          · cases h
            exact ⟨.request, rfl⟩
          · cases h
            exact ⟨.start, rfl⟩
          · exact hgroup (Option.some.inj h)

/-- Who can go on can do so by a step by which calls go on. -/
theorem canStep_of_canGoOn (answers : ConnectionAnswers) {who : Runner} (h : CanGoOn s who) :
    CanStep answers s := by
  obtain ⟨next, hnext, hpossible⟩ := h
  cases next with
  | act a =>
      obtain ⟨s', hs'⟩ := hpossible
      obtain ⟨hgoes, hnone⟩ := goesOn_of_next? hnext
      exact ⟨a, s', hs', hgoes, answersAs_of_none hnone⟩
  | acquire call source =>
      obtain ⟨s', hs'⟩ := hpossible none
      exact ⟨_, s', hs', .acquired, answersAs_of_none rfl⟩
  | send call source statement =>
      obtain ⟨s', hs'⟩ := hpossible
      exact ⟨_, s', hs', .send, answersAs_of_none rfl⟩
  | receive call source statement =>
      obtain ⟨r, hr⟩ := exists_answer answers who
      obtain ⟨s', hs'⟩ := hpossible (.result r)
      exact ⟨_, s', hs', .answer, hr⟩

/-- **As long as a task has not ended something can happen.** -/
theorem canStep_of_task (answers : ConnectionAnswers) (hS : s.workers.Sound)
    (hsize : 0 < s.workers.pool.size) (ht : s.workers.tasks[n]? = some t)
    (he : t.stage.hasEnded = false) : CanStep answers s := by
  obtain ⟨m, hm⟩ := exists_canGoOn_of_task hS hsize ht he
  exact canStep_of_canGoOn answers hm

/-- A call that has not been given up and is not over can go on, or the pool can. -/
theorem OnCourse.exists_step {answers : ConnectionAnswers} {groups : List UnitGroup}
    (h : OnCourse answers groups call s) (hS : s.workers.Sound)
    (hsize : 0 < s.workers.pool.size) (hdropped : s.calls[call]? ≠ some .dropped) :
    s.calls[call]? = some (.ended (executeGroups s.settings.strategy answers groups)) ∨
      CanStep answers s := by
  obtain ⟨stage, hc, hcourse⟩ := h.resolve_left hdropped
  cases hcourse with
  | ended hr => exact .inl (hr ▸ hc)
  | running _ _ _ => exact .inr (canStep_of_canGoOn answers (canGoOn_running hc))
  | @acquiring a _ ha _ =>
      exact .inr (canStep_of_canGoOn answers (canGoOn_acquiring hc ha.todo_ne))
  | @collecting outcomes tasks _ _ _ _ ht =>
      right
      cases ht with
      | nil => exact canStep_of_canGoOn answers (canGoOn_collecting hc (by simp))
      | @cons g n _ tasks hhead _ =>
          obtain ⟨t, ht, htask⟩ := hhead
          cases htask with
          | waiting hs _ =>
              rcases hs with rfl | rfl <;> exact canStep_of_task answers hS hsize ht rfl
          | running _ => exact canStep_of_task answers hS hsize ht rfl
          | ended _ =>
              refine canStep_of_canGoOn answers (canGoOn_collecting hc ?_)
              intro m hm
              obtain rfl := Option.some.inj hm
              exact ⟨_, _, ht, rfl⟩

end

/-! ### What is left to do -/

/-- The steps that a group has still to take. -/
def runWork (run : GroupRun) : Nat :=
  2 * run.rest.length + (if run.awaited.isSome then 1 else 0) + 1

/-- The steps that a task has still to take. -/
def taskWork (t : Worker GroupTask) : Nat :=
  match t.stage with
  | .fresh => runWork t.body.run + 3
  | .queued => runWork t.body.run + 2
  | .running => runWork t.body.run + 1
  | .ended _ => 0

/-- The steps that a group takes that has not been given to anybody. -/
def groupWork (g : UnitGroup) : Nat := 2 * g.units.length + 6

/-- The steps that a call has still to take, with those of the tasks that it will spawn. -/
def stageWork : ConnectionStage → Nat
  | .acquiring a =>
    2 * a.todo.length - (if a.asked then 1 else 0) + ((a.held ++ a.todo).map groupWork).sum + 3
  | .running run tasks => runWork run + tasks.length + 2
  | .collecting _ tasks => tasks.length + 1
  | .ended _ | .panicked _ | .dropped => 0

/-- The steps that all calls and tasks have still to take. -/
def work (s : ConnectionEngine) : Nat :=
  (s.calls.map stageWork).sum + (s.workers.tasks.map taskWork).sum

theorem runWork_ofGroup (g : UnitGroup) : runWork (.ofGroup g) = 2 * g.units.length + 1 := rfl

section

variable {s s' : ConnectionEngine} {call n : Nat} {a : ConnectionAction}

/-- A step of its runner leaves a group with less to do. -/
theorem runWork_lt {σ : ConnectionStrategy} {who : Runner} {run run' : GroupRun}
    {u : Option PhysicalUnit} (h : run.Moves σ who a u (.goesOn run')) :
    runWork run' < runWork run := by
  cases h with
  | sends ha hr =>
      simp only [runWork, ha, hr, List.length_cons, Option.isSome_some, Option.isSome_none,
        ↓reduceIte, Bool.false_eq_true]
      omega
  | keeps ha hk => simp [runWork, ha]

theorem taskWork_pos {t : Worker GroupTask} (h : t.stage.hasEnded = false) : 0 < taskWork t := by
  unfold taskWork
  split
  · omega
  · omega
  · omega
  · next hs =>
      rw [hs] at h
      cases h

/-- A step of a task leaves it with less to do. -/
theorem taskWork_lt {t t' : Worker GroupTask} {events : List (DispatchEvent SentStatement)}
    (h : GroupTask.Steps s n t a events t') : taskWork t' < taskWork t := by
  have hpos := taskWork_pos h.hasEnded
  cases h with
  | runs hs ha hm =>
      have := runWork_lt hm
      simp only [taskWork, hs]
      omega
  | ends hs ha hm | reaped he ha => exact hpos
  | requested hs ha | started hs ha hp => simp [taskWork, hs]

/-- Tasks that are told to stop have as much to do as before. -/
theorem sum_taskWork_of_aborts {w w' : Workers GroupTask} {tasks : List Nat}
    (h : w.run (tasks.map .abort) = some w') :
    (w'.tasks.map taskWork).sum = (w.tasks.map taskWork).sum := by
  induction tasks generalizing w with
  | nil =>
      cases h
      rfl
  | cons m tasks ih =>
      obtain ⟨w₁, hw₁, h⟩ := foldlM_cons_eq_some.mp h
      refine (ih h).trans ?_
      cases Workers.moves_of_step hw₁ with
      | spawned heq _ => cases heq
      | ignored _ hw₁ => rw [hw₁]
      | @task k t t' ht hm hw₁ =>
          subst hw₁
          cases hm with
          | aborted _ =>
              exact Nat.add_right_cancel (sum_set taskWork ht { t with aborting := true })

/-- Spawned tasks have less to do than their groups had. -/
theorem sum_taskWork_of_spawns {w w' : Workers GroupTask} {groups : List UnitGroup}
    (h : w.run (groups.map fun g => .spawn ⟨call, .ofGroup g, none⟩) = some w') :
    (w'.tasks.map taskWork).sum + 2 * groups.length =
      (w.tasks.map taskWork).sum + (groups.map groupWork).sum := by
  rw [tasks_of_spawns h, List.map_append, List.sum_append, List.map_map]
  have : (groups.map (taskWork ∘ fun g => ⟨.fresh, false, ⟨call, .ofGroup g, none⟩⟩)).sum +
      2 * groups.length = (groups.map groupWork).sum := by
    clear h
    induction groups with
    | nil => rfl
    | cons g groups ih =>
        simp only [List.map_cons, List.sum_cons, Function.comp_apply, List.length_cons, taskWork,
          runWork_ofGroup, groupWork] at ih ⊢
        omega
  omega

/-- A step of a call leaves it, and the tasks, with less to do. -/
theorem stageWork_lt {stage stage' : ConnectionStage} {events : List (DispatchEvent SentStatement)}
    {actions : List (WorkerAction GroupTask)} {w : Workers GroupTask}
    (h : stage.Moves s call a events actions stage') (hw : s.workers.run actions = some w) :
    stageWork stage' + (w.tasks.map taskWork).sum <
      stageWork stage + (s.workers.tasks.map taskWork).sum := by
  cases h with
  | asked h =>
      cases hw
      obtain ⟨ha, ⟨g, rest, ht, -⟩, rfl⟩ := Acquisition.ask?_eq_some.mp h
      simp only [stageWork, ha, ht, List.length_cons, ↓reduceIte, Bool.false_eq_true]
      omega
  | granted h =>
      cases hw
      obtain ⟨ha, g, rest, ht, -, rfl⟩ := Acquisition.grant?_eq_some.mp h
      simp only [stageWork, ha, ht, List.length_cons, ↓reduceIte, Bool.false_eq_true,
        List.append_assoc, List.singleton_append]
      omega
  | @launched acq first others h hh =>
      have := sum_taskWork_of_spawns hw
      obtain ⟨ha, ht⟩ := Acquisition.complete_iff.mp h
      simp only [stageWork, hh, ht, List.append_nil, List.map_cons, List.sum_cons,
        runWork_ofGroup, List.length_range']
      have hfirst : groupWork first = 2 * first.units.length + 6 := rfl
      omega
  | runs h =>
      cases hw
      have := runWork_lt h
      simp only [stageWork]
      omega
  | completes _ | collected _ _ =>
      cases hw
      simp only [stageWork, List.length_cons]
      omega
  | fails _ | collectedFailure _ _ =>
      rw [sum_taskWork_of_aborts hw]
      simp [stageWork]
  | refused _ | launchedNothing _ _ | breaks _ | collectedAll | droppedAcquiring | droppedRunning
  | droppedCollecting =>
      cases hw
      simp [stageWork]

/-- **Whatever happens but the beginning of a call leaves less to do.** -/
theorem work_lt (h : s.Moves a s') (ha : ∀ route keys, a ≠ .begin route keys) :
    work s' < work s := by
  cases h with
  | @begin route keys heq _ _ _ => exact absurd heq (ha route keys)
  | @call _ stage stage' _ _ hc hm hcalls _ hw =>
      have hlt := stageWork_lt hm hw
      have hsum := sum_set stageWork hc stage'
      rw [work, work, hcalls]
      omega
  | task ht hm hcalls _ hw =>
      obtain ⟨t', htasks, hsteps⟩ := hm.steps ht hw
      have hlt := taskWork_lt hsteps
      have hsum := sum_set taskWork ht t'
      rw [work, work, hcalls, htasks]
      omega

end

end ScatterGather.Connection
