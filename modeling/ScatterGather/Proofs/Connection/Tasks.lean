import ScatterGather.Proofs.Connection.Moves

/-!
# The tasks of calls

The tasks that a call has not collected yet belong to it, and every task belongs to one call
(`ConnectionEngine.Owned`). What a call does to the pool it does to its own tasks, and what a step
of a task does it does for its own group (`GroupTask.Steps`); so the tasks of a call and the
statements on its connections stay as they are when others move.
-/

namespace ScatterGather

/-! ### Statements on a connection -/

/-- The unit that is sent by an event on the connection of a call to a data source. -/
def DispatchEvent.unitOn? (call : Nat) (source : String) :
    DispatchEvent SentStatement → Option PhysicalUnit
  | .sent call' source' m => if call' = call ∧ source' = source then some m.unit else none
  | _ => none

/-- The units that are sent on the connection of a call to a data source, in their order. -/
def unitsOn (call : Nat) (source : String) (events : List (DispatchEvent SentStatement)) :
    List PhysicalUnit := events.filterMap (DispatchEvent.unitOn? call source)

theorem unitsOn_append (call : Nat) (source : String)
    (events more : List (DispatchEvent SentStatement)) :
    unitsOn call source (events ++ more) = unitsOn call source events ++ unitsOn call source more :=
  List.filterMap_append

/-- What a runner sends goes over the connection of its call to its data source. -/
theorem unitsOn_sent (s : ConnectionEngine) (call call' : Nat) (source source' : String)
    (sent : Option PhysicalUnit) :
    unitsOn call source (sent.toList.map fun u => .sent call' source' (s.statement u)) =
      if call' = call ∧ source' = source then sent.toList else [] := by
  cases sent with
  | none => simp [unitsOn]
  | some u =>
      by_cases h : call' = call ∧ source' = source <;>
        simp [unitsOn, DispatchEvent.unitOn?, ConnectionEngine.statement, h]

theorem unitsOn_releases (call call' : Nat) (source : String) (groups : List UnitGroup) :
    unitsOn call source (Acquisition.releases call' groups) = [] := by
  simp [unitsOn, Acquisition.releases, DispatchEvent.unitOn?]

/-! ### What becomes of a task -/

/-- What becomes of a task by its own step, and what happens by it. -/
inductive GroupTask.Steps (s : ConnectionEngine) (n : Nat) (t : Worker GroupTask)
    (a : ConnectionAction) : List (DispatchEvent SentStatement) → Worker GroupTask → Prop where
  | runs {run' sent} (hs : t.stage = .running) (ha : t.aborting = false)
    (h : t.body.run.Moves s.settings.strategy (.task n) a sent (.goesOn run')) :
    Steps s n t a (sent.toList.map fun u => .sent t.body.call t.body.run.dataSource (s.statement u))
      { t with body := { t.body with run := run' } }
  | ends {how} (hs : t.stage = .running) (ha : t.aborting = false)
    (h : t.body.run.Moves s.settings.strategy (.task n) a none (.ends how)) :
    Steps s n t a [.released t.body.call t.body.run.dataSource]
      ⟨.ended how.worker, t.aborting, { t.body with result := how.result t.body.run }⟩
  | requested (hs : t.stage = .fresh) (ha : t.aborting = false) :
    Steps s n t a [] { t with stage := .queued }
  | started (hs : t.stage = .queued) (ha : t.aborting = false) (hp : n ∈ s.workers.pool.holders) :
    Steps s n t a [] { t with stage := .running }
  | reaped (he : t.stage.hasEnded = false) (ha : t.aborting = true) :
    Steps s n t a [.released t.body.call t.body.run.dataSource]
      { t with stage := .ended .aborted }

section

variable {s : ConnectionEngine} {n : Nat} {t t' : Worker GroupTask} {a : ConnectionAction}
  {events : List (DispatchEvent SentStatement)}

/-- A task stays with its call. -/
theorem GroupTask.Steps.call_eq (h : GroupTask.Steps s n t a events t') :
    t'.body.call = t.body.call := by
  cases h <;> rfl

/-- A task does not tell itself to stop. -/
theorem GroupTask.Steps.aborting_eq (h : GroupTask.Steps s n t a events t') :
    t'.aborting = t.aborting := by
  cases h <;> rfl

/-- A task stays with its data source. -/
theorem GroupTask.Steps.dataSource_eq (h : GroupTask.Steps s n t a events t') :
    t'.body.run.dataSource = t.body.run.dataSource := by
  cases h with
  | runs _ _ h => exact h.dataSource_eq
  | ends _ _ _ | requested _ _ | started _ _ _ | reaped _ _ => rfl

/-- A task that has ended does nothing more. -/
theorem GroupTask.Steps.hasEnded (h : GroupTask.Steps s n t a events t') :
    t.stage.hasEnded = false := by
  cases h with
  | runs hs ha h | ends hs ha h | requested hs ha | started hs ha hp => rw [hs]; rfl
  | reaped he ha => exact he

/-- A task sends over the connection of its call to its own data source alone. -/
theorem GroupTask.Steps.unitsOn_eq (h : GroupTask.Steps s n t a events t') {call : Nat}
    {source : String} (hne : ¬(t.body.call = call ∧ t.body.run.dataSource = source)) :
    unitsOn call source events = [] := by
  cases h with
  | runs hs ha h => rw [unitsOn_sent, if_neg hne]
  | ends hs ha h | requested hs ha | started hs ha hp | reaped he ha => rfl

/-- The step of a task moves that task alone. -/
theorem GroupTask.Moves.task? {actions : List (WorkerAction GroupTask)}
    (h : GroupTask.Moves s n t a events actions) : ∀ x ∈ actions, x.task? = some n := by
  cases h <;> simp [WorkerAction.task?]

/-- What becomes of a task that takes a step. -/
theorem GroupTask.Moves.steps {actions : List (WorkerAction GroupTask)}
    (h : GroupTask.Moves s n t a events actions) (ht : s.workers.tasks[n]? = some t)
    {w : Workers GroupTask} (hw : s.workers.run actions = some w) :
    ∃ t', w.tasks = s.workers.tasks.set n t' ∧ GroupTask.Steps s n t a events t' := by
  have hstep : ∀ {w w' : Workers GroupTask} {t : Worker GroupTask} {x},
      w.step x = some w' → w.tasks[n]? = some t → x.task? = some n → x ≠ .abort n →
      ∃ t', w'.tasks = w.tasks.set n t' ∧ t.Moves w.pool n x t' :=
    fun hw ht hx hne => (Workers.moves_of_step hw).task_moves ht hx hne
  cases h with
  | runs hs ha h =>
      obtain ⟨t', ht', hm⟩ := hstep (Workers.run_singleton.mp hw) ht rfl nofun
      cases hm with
      | worked _ _ => exact ⟨_, ht', .runs hs ha h⟩
  | ends hs ha h =>
      obtain ⟨w₁, hw₁, hw⟩ := foldlM_cons_eq_some.mp hw
      obtain ⟨t₁, ht₁, hm₁⟩ := hstep hw₁ ht rfl nofun
      have hself : w₁.tasks[n]? = some t₁ := by
        rw [ht₁, List.getElem?_set_self (List.getElem?_eq_some_iff.mp ht).1]
      obtain ⟨t', ht', hm⟩ := hstep (Workers.run_singleton.mp hw) hself rfl nofun
      rw [ht₁, List.set_set] at ht'
      cases hm₁ with
      | worked _ _ =>
          cases hm with
          | finished _ _ => exact ⟨_, ht', .ends hs ha h⟩
  | requested =>
      obtain ⟨t', ht', hm⟩ := hstep (Workers.run_singleton.mp hw) ht rfl nofun
      cases hm with
      | requested hs ha => exact ⟨_, ht', .requested hs ha⟩
  | started =>
      obtain ⟨t', ht', hm⟩ := hstep (Workers.run_singleton.mp hw) ht rfl nofun
      cases hm with
      | started hs ha hp => exact ⟨_, ht', .started hs ha hp⟩
  | reaped =>
      obtain ⟨t', ht', hm⟩ := hstep (Workers.run_singleton.mp hw) ht rfl nofun
      cases hm with
      | reaped he ha => exact ⟨_, ht', .reaped he ha⟩

end

/-! ### What calls do to tasks -/

namespace ConnectionStage

/-- The tasks that a call has spawned and not collected yet. -/
def tasks : ConnectionStage → List Nat
  | .running _ tasks | .collecting _ tasks => tasks
  | _ => []

variable {s : ConnectionEngine} {call : Nat} {a : ConnectionAction} {stage stage' : ConnectionStage}
  {events : List (DispatchEvent SentStatement)} {actions : List (WorkerAction GroupTask)}

/-- A call moves only tasks of its own. -/
theorem Moves.task_mem (h : stage.Moves s call a events actions stage') :
    ∀ x ∈ actions, ∀ n, x.task? = some n → n ∈ stage.tasks := by
  cases h with
  | launched _ _ =>
      intro x hx n hn
      obtain ⟨g, -, rfl⟩ := List.mem_map.mp hx
      cases hn
  | fails _ | collectedFailure _ _ =>
      intro x hx n hn
      obtain ⟨m, hm, rfl⟩ := List.mem_map.mp hx
      cases hn
      first | exact hm | exact List.mem_cons_of_mem _ hm
  | _ => simp

/-- A call sends over its own connections alone. -/
theorem Moves.unitsOn_eq (h : stage.Moves s call a events actions stage') {call' : Nat}
    (hne : call ≠ call') (source : String) : unitsOn call' source events = [] := by
  cases h with
  | runs h => rw [unitsOn_sent, if_neg fun heq => hne heq.1]
  | refused _ | droppedAcquiring => exact unitsOn_releases ..
  | _ => rfl

end ConnectionStage

/-- A task that is told to stop. -/
theorem task_of_aborts {w w' : Workers GroupTask} {tasks : List Nat} {n : Nat}
    {t : Worker GroupTask} (hw : w.run (tasks.map .abort) = some w')
    (ht : w.tasks[n]? = some t) :
    w'.tasks[n]? = some t ∨ w'.tasks[n]? = some { t with aborting := true } := by
  induction tasks generalizing w t with
  | nil =>
      cases hw
      exact .inl ht
  | cons m tasks ih =>
      obtain ⟨w₁, hw₁, hw⟩ := foldlM_cons_eq_some.mp hw
      have hm := Workers.moves_of_step hw₁
      by_cases hmn : m = n
      · subst hmn
        cases hm with
        | spawned heq _ => cases heq
        | ignored _ hw₁ => exact ih hw (hw₁ ▸ ht)
        | @task k u u' hu hm hw₁ =>
            subst hw₁
            cases hm with
            | aborted he =>
                obtain rfl := Option.some.inj (hu.symm.trans ht)
                have := ih hw (List.getElem?_set_self (List.getElem?_eq_some_iff.mp ht).1)
                exact .inr (this.elim id id)
      · exact ih hw (hm.task_kept ht fun heq => hmn (Option.some.inj heq))

/-- The tasks behind those that a call spawns. -/
theorem tasks_of_spawns {w w' : Workers GroupTask} {call : Nat} {groups : List UnitGroup}
    (hw : w.run (groups.map fun g => .spawn ⟨call, .ofGroup g, none⟩) = some w') :
    w'.tasks = w.tasks ++ groups.map fun g => ⟨.fresh, false, ⟨call, .ofGroup g, none⟩⟩ := by
  induction groups generalizing w with
  | nil =>
      cases hw
      simp
  | cons g groups ih =>
      have hw : (w.spawn ⟨call, .ofGroup g, none⟩).run
          (groups.map fun g => .spawn ⟨call, .ofGroup g, none⟩) = some w' := hw
      rw [ih hw]
      simp [Workers.spawn]

/-- What becomes of a task when a call moves. -/
theorem ConnectionStage.Moves.task_behind {s : ConnectionEngine} {call n : Nat}
    {a : ConnectionAction} {stage stage' : ConnectionStage}
    {events : List (DispatchEvent SentStatement)} {actions : List (WorkerAction GroupTask)}
    {w : Workers GroupTask} {t : Worker GroupTask}
    (h : stage.Moves s call a events actions stage') (hw : s.workers.run actions = some w)
    (ht : s.workers.tasks[n]? = some t) :
    w.tasks[n]? = some t ∨ w.tasks[n]? = some { t with aborting := true } := by
  cases h with
  | launched _ _ =>
      rw [tasks_of_spawns hw]
      exact .inl (getElem?_append_of_eq_some ht)
  | fails _ | collectedFailure _ _ => exact task_of_aborts hw ht
  | _ =>
      cases hw
      exact .inl ht

/-- A task is collected when it has ended. -/
theorem ConnectionEngine.hasEnded_of_collected {t : Worker GroupTask}
    {x : Except ExecutionError (List Success)} (h : collected t = some x) :
    t.stage.hasEnded = true := by
  unfold collected at h
  split at h
  · next hs => rw [hs]; rfl
  · next hs => rw [hs]; rfl
  · next hs => rw [hs]; rfl
  · cases h

section

variable {s : ConnectionEngine} {call : Nat} {a : ConnectionAction} {stage stage' : ConnectionStage}
  {events : List (DispatchEvent SentStatement)} {actions : List (WorkerAction GroupTask)}

/-- The tasks of a call that has moved it had before, or it has spawned them. -/
theorem ConnectionStage.Moves.mem_tasks (h : stage.Moves s call a events actions stage')
    {w : Workers GroupTask} (hw : s.workers.run actions = some w) {n : Nat}
    (hn : n ∈ stage'.tasks) :
    n ∈ stage.tasks ∨ ∃ t, w.tasks[n]? = some t ∧ t.body.call = call := by
  cases h with
  | @launched _ first others _ _ =>
      obtain ⟨hge, hlt⟩ := List.mem_range'_1.mp hn
      have hi : n - s.workers.tasks.length < others.length := by omega
      refine .inr ⟨⟨.fresh, false, ⟨call, .ofGroup others[n - s.workers.tasks.length], none⟩⟩, ?_,
        rfl⟩
      rw [tasks_of_spawns hw, List.getElem?_append_right hge, List.getElem?_map,
        List.getElem?_eq_getElem hi]
      rfl
  | runs _ | completes _ => exact .inl hn
  | collected _ _ => exact .inl (List.mem_cons_of_mem _ hn)
  | _ => cases hn

/-- A call lets go of a task when that has ended, or when it is over itself. -/
theorem ConnectionStage.Moves.lets_go (h : stage.Moves s call a events actions stage') {n : Nat}
    (hn : n ∈ stage.tasks) :
    n ∈ stage'.tasks ∨ stage'.isOver = true ∨
      ∃ t, s.workers.tasks[n]? = some t ∧ t.stage.hasEnded = true := by
  cases h with
  | runs _ | completes _ => exact .inl hn
  | collected ht hc =>
      rcases List.mem_cons.mp hn with rfl | hn
      · exact .inr (.inr ⟨_, ht, ConnectionEngine.hasEnded_of_collected hc⟩)
      · exact .inl hn
  | fails _ | breaks _ | collectedFailure _ _ | droppedRunning | droppedCollecting =>
      exact .inr (.inl rfl)
  | asked _ | granted _ | refused _ | launched _ _ | launchedNothing _ _ | collectedAll
  | droppedAcquiring => cases hn

/-- A call that is over does not move. -/
theorem ConnectionStage.Moves.isOver (h : stage.Moves s call a events actions stage') :
    stage.isOver = false := by
  cases h <;> rfl

end

/-! ### Whose tasks there are -/

namespace ConnectionEngine

/-- Every task is one of a call, and the tasks that a call has not collected are its own; a task
that no call has still to collect has ended, unless its call is over. -/
structure Owned (s : ConnectionEngine) : Prop where
  known : ∀ (n : Nat) (t : Worker GroupTask), s.workers.tasks[n]? = some t →
    t.body.call < s.calls.length
  mine : ∀ (call : Nat) (stage : ConnectionStage) (n : Nat), s.calls[call]? = some stage →
    n ∈ stage.tasks → ∃ t, s.workers.tasks[n]? = some t ∧ t.body.call = call
  standing : ∀ (n : Nat) (t : Worker GroupTask) (stage : ConnectionStage),
    s.workers.tasks[n]? = some t → s.calls[t.body.call]? = some stage →
    t.stage.hasEnded = true ∨ n ∈ stage.tasks ∨ stage.isOver = true

variable {s s' : ConnectionEngine} {a : ConnectionAction}

/-- A task keeps its number, and stays as it is, is told to stop, or takes a step. -/
theorem Moves.task_cases (h : s.Moves a s') {n : Nat} {t : Worker GroupTask}
    (ht : s.workers.tasks[n]? = some t) :
    ∃ t', s'.workers.tasks[n]? = some t' ∧ (t' = t ∨ t' = { t with aborting := true } ∨
      ∃ events, GroupTask.Steps s n t a events t') := by
  cases h with
  | begin _ _ _ hw => exact ⟨t, hw ▸ ht, .inl rfl⟩
  | call _ hm _ _ hw =>
      rcases hm.task_behind hw ht with ht' | ht'
      · exact ⟨_, ht', .inl rfl⟩
      · exact ⟨_, ht', .inr (.inl rfl)⟩
  | @task m u _ _ hu hm _ _ hw =>
      obtain ⟨t', ht', hs⟩ := hm.steps hu hw
      by_cases hmn : m = n
      · subst hmn
        obtain rfl := Option.some.inj (hu.symm.trans ht)
        refine ⟨t', ?_, .inr (.inr ⟨_, hs⟩)⟩
        rw [ht', List.getElem?_set_self (List.getElem?_eq_some_iff.mp ht).1]
      · exact ⟨t, by rw [ht', List.getElem?_set_ne hmn, ht], .inl rfl⟩

/-- A task keeps its number and its call, and one that has ended stays so. -/
theorem Moves.task_behind (h : s.Moves a s') {n : Nat} {t : Worker GroupTask}
    (ht : s.workers.tasks[n]? = some t) :
    ∃ t', s'.workers.tasks[n]? = some t' ∧ t'.body.call = t.body.call ∧
      (t.stage.hasEnded = true → t'.stage.hasEnded = true) := by
  obtain ⟨t', ht', rfl | rfl | ⟨_, hs⟩⟩ := h.task_cases ht
  · exact ⟨_, ht', rfl, id⟩
  · exact ⟨_, ht', rfl, id⟩
  · refine ⟨t', ht', hs.call_eq, fun he => ?_⟩
    rw [hs.hasEnded] at he
    cases he

/-- A task has been there before, or is spawned by a call that is launched. -/
theorem Moves.task_origin (h : s.Moves a s') {n : Nat} {t' : Worker GroupTask}
    (ht' : s'.workers.tasks[n]? = some t') :
    (∃ t, s.workers.tasks[n]? = some t) ∨
      ∃ call stage, call < s.calls.length ∧ s'.calls[call]? = some stage ∧ n ∈ stage.tasks ∧
        t'.body.call = call ∧ t'.body.result = none ∧ t'.stage = .fresh := by
  have hold : s'.workers.tasks.length = s.workers.tasks.length →
      ∃ t, s.workers.tasks[n]? = some t := fun hlen =>
    ⟨_, List.getElem?_eq_getElem (hlen ▸ (List.getElem?_eq_some_iff.mp ht').1)⟩
  cases h with
  | begin _ _ _ hw => exact .inl ⟨t', hw ▸ ht'⟩
  | @call call stage stage' _ _ hc hm hcalls _ hw =>
      have hlt := (List.getElem?_eq_some_iff.mp hc).1
      cases hm with
      | @launched _ first others _ _ =>
          rw [tasks_of_spawns hw, List.getElem?_append] at ht'
          split at ht'
          · exact .inl ⟨t', ht'⟩
          · next hn =>
              refine .inr ⟨call, _, hlt, hcalls ▸ List.getElem?_set_self hlt, ?_, ?_⟩
              · have hn' := (List.getElem?_eq_some_iff.mp ht').1
                rw [List.length_map] at hn'
                exact List.mem_range'_1.mpr ⟨by omega, by omega⟩
              · obtain ⟨g, -, rfl⟩ := List.mem_map.mp (List.mem_of_getElem? ht')
                exact ⟨rfl, rfl, rfl⟩
      | _ => exact .inl (hold (Workers.length_of_run hw (by simp)))
  | task _ hm _ _ hw =>
      refine .inl (hold (Workers.length_of_run hw ?_))
      intro x hx body heq
      cases heq ▸ hm.task? x hx

/-- A call keeps its number, and stays as it is or moves. -/
theorem Moves.call_behind (h : s.Moves a s') {call : Nat} {stage : ConnectionStage}
    (hc : s.calls[call]? = some stage) :
    ∃ stage', s'.calls[call]? = some stage' ∧ (stage' = stage ∨
      ∃ events actions, stage.Moves s call a events actions stage' ∧
        s.workers.run actions = some s'.workers) := by
  cases h with
  | begin _ hcalls _ _ => exact ⟨stage, hcalls ▸ getElem?_append_of_eq_some hc, .inl rfl⟩
  | @call k ck stage' _ _ hck hm hcalls _ hw =>
      by_cases hk : k = call
      · subst hk
        obtain rfl := Option.some.inj (hc.symm.trans hck)
        exact ⟨stage', by rw [hcalls, List.getElem?_set_self (List.getElem?_eq_some_iff.mp hc).1],
          .inr ⟨_, _, hm, hw⟩⟩
      · exact ⟨stage, by rw [hcalls, List.getElem?_set_ne hk, hc], .inl rfl⟩
  | task _ _ hcalls _ _ => exact ⟨stage, hcalls ▸ hc, .inl rfl⟩

/-- The first stage of a call: without groups it is over, else it has all its connections still to
acquire. -/
theorem firstStage_cases (route : Route) (keys : Bool) :
    (route.groups keys = [] ∧ firstStage route keys = .ended (.ok .empty)) ∨
      (route.groups keys ≠ [] ∧
        firstStage route keys = .acquiring (.ofGroups (route.groups keys))) := by
  unfold firstStage
  split
  · next hempty =>
      refine .inl ⟨?_, rfl⟩
      rw [Route.groups, List.isEmpty_iff.mp hempty]
      rfl
  · next hne => exact .inr ⟨route.groups_ne_nil keys (by simpa using hne), rfl⟩

/-- A call that begins has no tasks. -/
@[simp]
theorem tasks_firstStage (route : Route) (keys : Bool) : (firstStage route keys).tasks = [] := by
  rcases firstStage_cases route keys with ⟨-, h⟩ | ⟨-, h⟩ <;> rw [h] <;> rfl

/-- A call has been there before, or begins. -/
theorem Moves.call_origin (h : s.Moves a s') {call : Nat} {stage' : ConnectionStage}
    (hc' : s'.calls[call]? = some stage') :
    (∃ stage, s.calls[call]? = some stage) ∨
      call = s.calls.length ∧ ∃ route keys, stage' = firstStage route keys := by
  cases h with
  | @begin route keys _ hcalls _ _ =>
      rw [hcalls] at hc'
      rcases getElem?_concat_eq_some hc' with hc | ⟨hcall, rfl⟩
      · exact .inl ⟨_, hc⟩
      · exact .inr ⟨hcall, route, keys, rfl⟩
  | call _ _ hcalls _ _ =>
      have hlt := (List.getElem?_eq_some_iff.mp hc').1
      rw [hcalls, List.length_set] at hlt
      exact .inl ⟨_, List.getElem?_eq_getElem hlt⟩
  | task _ _ hcalls _ _ => exact .inl ⟨_, hcalls ▸ hc'⟩

/-- Where a call stands behind a step it has stood before, has moved to, or begins. -/
theorem Moves.stage_origin (h : s.Moves a s') {call : Nat} {stage' : ConnectionStage}
    (hc' : s'.calls[call]? = some stage') :
    s.calls[call]? = some stage' ∨
      (∃ stage events actions, s.calls[call]? = some stage ∧
        stage.Moves s call a events actions stage') ∨
      ∃ route keys, stage' = firstStage route keys := by
  rcases h.call_origin hc' with ⟨stage, hc⟩ | ⟨-, hfirst⟩
  · obtain ⟨stage'', hc'', hs⟩ := h.call_behind hc
    obtain rfl := Option.some.inj (hc'.symm.trans hc'')
    rcases hs with rfl | ⟨events, actions, hs, -⟩
    · exact .inl hc
    · exact .inr (.inl ⟨stage, events, actions, hc, hs⟩)
  · exact .inr (.inr hfirst)

/-- Calls only become more. -/
theorem Moves.length_le (h : s.Moves a s') : s.calls.length ≤ s'.calls.length := by
  cases h with
  | begin _ hcalls _ _ => simp [hcalls]
  | call _ _ hcalls _ _ => simp [hcalls]
  | task _ _ hcalls _ _ => simp [hcalls]

/-- **Every move leaves the tasks with their calls.** -/
theorem Owned.move (h : s.Owned) (hm : s.Moves a s') : s'.Owned where
  known n t' ht' := by
    rcases hm.task_origin ht' with ⟨t, ht⟩ | ⟨call, stage, hlt, -, -, rfl, -⟩
    · obtain ⟨t'', ht'', hcall, -⟩ := hm.task_behind ht
      obtain rfl := Option.some.inj (ht'.symm.trans ht'')
      exact hcall ▸ Nat.lt_of_lt_of_le (h.known n t ht) hm.length_le
    · exact Nat.lt_of_lt_of_le hlt hm.length_le
  mine call stage' n hc' hn := by
    have hold : ∀ stage, s.calls[call]? = some stage → n ∈ stage.tasks →
        ∃ t, s'.workers.tasks[n]? = some t ∧ t.body.call = call := by
      intro stage hc hn
      obtain ⟨t, ht, hcall⟩ := h.mine call stage n hc hn
      obtain ⟨t', ht', hcall', -⟩ := hm.task_behind ht
      exact ⟨t', ht', hcall'.trans hcall⟩
    rcases hm.call_origin hc' with ⟨stage, hc⟩ | ⟨-, _, _, rfl⟩
    · obtain ⟨stage'', hc'', hs⟩ := hm.call_behind hc
      obtain rfl := Option.some.inj (hc'.symm.trans hc'')
      rcases hs with rfl | ⟨events, actions, hs, hw⟩
      · exact hold _ hc hn
      · exact (hs.mem_tasks hw hn).elim (hold stage hc) id
    · simp at hn
  standing n t' stage' ht' hc' := by
    rcases hm.task_origin ht' with ⟨t, ht⟩ | ⟨call, stage, hlt, hc, hn, rfl, -⟩
    · obtain ⟨t'', ht'', hcall, hended⟩ := hm.task_behind ht
      obtain rfl := Option.some.inj (ht'.symm.trans ht'')
      obtain ⟨stage, hc⟩ : ∃ stage, s.calls[t.body.call]? = some stage :=
        ⟨_, List.getElem?_eq_getElem (h.known n t ht)⟩
      obtain ⟨stage'', hc'', hs⟩ := hm.call_behind hc
      obtain rfl := Option.some.inj (hc'.symm.trans (hcall ▸ hc''))
      rcases h.standing n t stage ht hc with he | hn | ho
      · exact .inl (hended he)
      · rcases hs with rfl | ⟨events, actions, hs, hw⟩
        · exact .inr (.inl hn)
        · rcases hs.lets_go hn with hn' | ho | ⟨u, hu, he⟩
          · exact .inr (.inl hn')
          · exact .inr (.inr ho)
          · obtain rfl := Option.some.inj (ht.symm.trans hu)
            exact .inl (hended he)
      · rcases hs with rfl | ⟨events, actions, hs, hw⟩
        · exact .inr (.inr ho)
        · rw [hs.isOver] at ho
          cases ho
    · obtain rfl := Option.some.inj (hc.symm.trans hc')
      exact .inr (.inl hn)

/-- An engine without calls has no tasks. -/
theorem owned_new (settings : ConnectionSettings) (pool : Pool) : (new settings pool).Owned where
  known n t ht := by cases ht
  mine call stage n hc := by cases hc
  standing n t stage ht := by cases ht

end ConnectionEngine

end ScatterGather
