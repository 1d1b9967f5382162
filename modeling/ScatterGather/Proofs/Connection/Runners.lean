import ScatterGather.Connection.Next
import ScatterGather.Proofs.Connection.Moves
import ScatterGather.Proofs.Worker.Permits

/-!
# Who can go on

`ConnectionEngine.next?` says what a call or a task goes on with, and it can go on when that is
possible, however its acquisition is completed and whatever its connection answers (`CanGoOn`). What
is not always possible is to collect a task, which must have ended, and to begin on a permit, which
must have been given. But while tasks queue for permits somebody holds one
(`Pool.Sound.exists_holder`), and who holds one can go on (`canGoOn_of_holds`); so as long as a task
has not ended some task can go on (`exists_canGoOn_of_task`).
-/

namespace ScatterGather.Connection

/-- What a call or a task goes on with is possible, whatever the world answers. -/
def Possible (s : ConnectionEngine) (who : Runner) : ConnectionNext → Prop
  | .act a => ∃ s', s.step a = some s'
  | .acquire call _ => ∀ refusal, ∃ s', s.step (.acquired call refusal) = some s'
  | .send _ _ _ => ∃ s', s.step (.send who) = some s'
  | .receive _ _ _ => ∀ answer, ∃ s', s.step (.answer who answer) = some s'

/-- A call or a task goes on with something that is possible. -/
def CanGoOn (s : ConnectionEngine) (who : Runner) : Prop :=
  ∃ next, s.next? who = some next ∧ Possible s who next

variable {s : ConnectionEngine} {call n : Nat} {t : Worker GroupTask}

/-- What a call goes on with at its stage. -/
theorem next?_call {stage : ConnectionStage} (hc : s.calls[call]? = some stage) :
    s.next? (.call call) = s.nextOfCall call stage := by
  rw [ConnectionEngine.next?, hc]
  rfl

/-- What a task goes on with. -/
theorem next?_task (ht : s.workers.tasks[n]? = some t) :
    s.next? (.task n) = s.nextOfTask n t := by
  rw [ConnectionEngine.next?, ht]
  rfl

/-! ### Groups -/

/-- A group that is run is awaited, sends its next unit, or is complete: its runner can go on with
it when it can do what is called for. -/
theorem possible_nextOfGroup {who : Runner} {run : GroupRun}
    (hanswer : ∀ u, run.awaited = some u → ∀ answer, ∃ s', s.step (.answer who answer) = some s')
    (hsend : ∀ x, run.send? = some x → ∃ s', s.step (.send who) = some s')
    (hfinish : run.complete = true → ∃ s', s.step (.finish who) = some s') :
    Possible s who (s.nextOfGroup who call run) := by
  obtain ⟨source, rest, awaited, outcomes⟩ := run
  cases awaited with
  | some u => exact hanswer u rfl
  | none =>
      cases rest with
      | cons u rest => exact hsend _ rfl
      | nil => exact hfinish rfl

/-- A call that runs its first group can go on with it. -/
theorem canGoOn_running {run : GroupRun} {tasks : List Nat}
    (hc : s.calls[call]? = some (.running run tasks)) : CanGoOn s (.call call) := by
  refine ⟨_, next?_call hc, possible_nextOfGroup ?_ ?_ ?_⟩
  · intro u hu answer
    simp only [ConnectionEngine.step, hc, Option.bind_eq_bind, Option.bind_some]
    cases answer with
    | panic message => exact ⟨_, by simp only [ConnectionEngine.answerCall, hu]; rfl⟩
    | result r =>
        simp only [ConnectionEngine.answerCall, GroupRun.receive?_eq hu, Option.bind_eq_bind,
          Option.bind_some]
        cases s.settings.strategy.keepAnswer u r
        · exact ⟨_, rfl⟩
        · exact ⟨_, rfl⟩
  · intro x hx
    simp only [ConnectionEngine.step, hc, hx, Option.bind_eq_bind, Option.bind_some]
    exact ⟨_, rfl⟩
  · intro hcomplete
    simp only [ConnectionEngine.step, hc, hcomplete, Option.bind_eq_bind, Option.bind_some]
    exact ⟨_, rfl⟩

/-- A running task can go on with its work. -/
theorem exists_work (ht : s.workers.tasks[n]? = some t) (hs : t.stage = .running)
    (ha : t.aborting = false) (f : GroupTask → GroupTask) :
    ∃ w, s.workers.work? n (fun t => some (f t)) = some w := by
  have hat : s.workers.at? n .running = some t := Workers.at?_eq_some.mpr ⟨ht, hs, ha⟩
  simp [Workers.work?, hat]

/-- A running task can end. -/
theorem exists_endTask (ht : s.workers.tasks[n]? = some t) (hs : t.stage = .running)
    (ha : t.aborting = false) (result : Option (Except ExecutionError (List Success)))
    (how : WorkerEnd) : ∃ s', s.endTask n t.body result how = some s' := by
  have hat : s.workers.at? n .running = some t := Workers.at?_eq_some.mpr ⟨ht, hs, ha⟩
  have hat' : Workers.at? ⟨s.workers.pool, s.workers.tasks.set n
      { t with body := { t.body with result } }⟩ n .running =
        some { t with body := { t.body with result } } :=
    Workers.at?_eq_some.mpr ⟨List.getElem?_set_self (List.getElem?_eq_some_iff.mp ht).1, hs, ha⟩
  simp only [ConnectionEngine.endTask, Workers.work?, Workers.finish?, hat, Option.bind_eq_bind,
    Option.bind_some, Option.pure_def, Workers.modify_eq ht, hat']
  exact ⟨_, rfl⟩

/-- A running task goes on with its group unless it has been told to stop. -/
theorem next?_running (ht : s.workers.tasks[n]? = some t) (hs : t.stage = .running)
    (ha : t.aborting = false) :
    s.next? (.task n) = some (s.nextOfGroup (.task n) t.body.call t.body.run) := by
  simp [next?_task ht, ConnectionEngine.nextOfTask, hs, ha, WorkerStage.hasEnded]

/-- A running task that has not been told to stop can go on with its group. -/
theorem canGoOn_task (ht : s.workers.tasks[n]? = some t) (hs : t.stage = .running)
    (ha : t.aborting = false) : CanGoOn s (.task n) := by
  have hrunning : s.running? n = some t.body :=
    ConnectionEngine.running?_eq_some.mpr ⟨t, ht, hs, ha, rfl⟩
  refine ⟨_, next?_running ht hs ha, possible_nextOfGroup ?_ ?_ ?_⟩
  · intro u hu answer
    simp only [ConnectionEngine.step, hrunning, Option.bind_eq_bind, Option.bind_some]
    cases answer with
    | panic message =>
        simp only [ConnectionEngine.answerTask, hu, Option.bind_eq_bind, Option.bind_some]
        exact exists_endTask ht hs ha none (.panicked message)
    | result r =>
        simp only [ConnectionEngine.answerTask, GroupRun.receive?_eq hu, Option.bind_eq_bind,
          Option.bind_some]
        cases s.settings.strategy.keepAnswer u r with
        | error e => exact exists_endTask ht hs ha (some (.error e)) .finished
        | ok x =>
            obtain ⟨w, hw⟩ := exists_work ht hs ha fun t' => { t' with
              run := { t.body.run with awaited := none, outcomes := t.body.run.outcomes ++ [x] } }
            exact ⟨{ s with workers := w }, Option.bind_eq_some_iff.mpr ⟨w, hw, rfl⟩⟩
  · intro x hx
    obtain ⟨w, hw⟩ := exists_work ht hs ha fun t' => { t' with run := x.2 }
    simp only [ConnectionEngine.step, hrunning, hx, Option.bind_eq_bind, Option.bind_some, hw]
    exact ⟨_, rfl⟩
  · intro hcomplete
    simp only [ConnectionEngine.step, hrunning, hcomplete, Option.bind_eq_bind, Option.bind_some]
    exact exists_endTask ht hs ha (some (.ok t.body.run.outcomes)) .finished

/-! ### Tasks and permits -/

/-- A task that has been told to stop can end. -/
theorem canGoOn_reap (ht : s.workers.tasks[n]? = some t) (ha : t.aborting = true)
    (he : t.stage.hasEnded = false) : CanGoOn s (.task n) := by
  refine ⟨.act (.reap n), by simp [next?_task ht, ConnectionEngine.nextOfTask, he, ha], ?_⟩
  simp only [Possible, ConnectionEngine.step, ht, Option.bind_eq_bind, Option.bind_some,
    Workers.reap?, ha, he]
  exact ⟨_, rfl⟩

/-- A task that has not run yet can ask for a permit. -/
theorem canGoOn_fresh (ht : s.workers.tasks[n]? = some t) (hs : t.stage = .fresh)
    (ha : t.aborting = false) : CanGoOn s (.task n) := by
  have hat : s.workers.at? n .fresh = some t := Workers.at?_eq_some.mpr ⟨ht, hs, ha⟩
  refine ⟨.act (.request n), by
    simp [next?_task ht, ConnectionEngine.nextOfTask, hs, ha, WorkerStage.hasEnded], ?_⟩
  simp only [Possible, ConnectionEngine.step, Workers.request?, hat, Option.bind_eq_bind,
    Option.bind_some]
  exact ⟨_, rfl⟩

/-- **Who holds a permit can go on.** -/
theorem canGoOn_of_holds (ht : s.workers.tasks[n]? = some t) (hp : n ∈ s.workers.pool.holders)
    (hw : t.stage.wants = true) : CanGoOn s (.task n) := by
  cases ha : t.aborting with
  | true =>
      have he : t.stage.hasEnded = false := by
        cases hs : t.stage <;> simp_all [WorkerStage.wants, WorkerStage.hasEnded]
      exact canGoOn_reap ht ha he
  | false =>
      cases hs : t.stage with
      | fresh | ended how => simp [hs, WorkerStage.wants] at hw
      | running => exact canGoOn_task ht hs ha
      | queued =>
          have hat : s.workers.at? n .queued = some t := Workers.at?_eq_some.mpr ⟨ht, hs, ha⟩
          have hholds : s.workers.pool.holds n = true := by simpa [Pool.holds] using hp
          refine ⟨.act (.start n), by
            simp [next?_task ht, ConnectionEngine.nextOfTask, hs, ha, WorkerStage.hasEnded], ?_⟩
          simp only [Possible, ConnectionEngine.step, Workers.start?, hat, hholds,
            Option.bind_eq_bind, Option.bind_some]
          exact ⟨_, rfl⟩

/-- **While a task queues, it or another one can go on.** -/
theorem exists_canGoOn_of_queued (hS : s.workers.Sound) (hsize : 0 < s.workers.pool.size)
    (ht : s.workers.tasks[n]? = some t) (hs : t.stage = .queued) :
    ∃ m, CanGoOn s (.task m) := by
  have hwants : t.stage.wants = true := by rw [hs]; rfl
  rcases List.mem_append.mp ((hS.wants n).mpr ⟨t, ht, hwants⟩) with hp | hq
  · exact ⟨n, canGoOn_of_holds ht hp hwants⟩
  · obtain ⟨m, hm⟩ := hS.pool.exists_holder hsize (List.ne_nil_of_mem hq)
    obtain ⟨u, hu, hwants⟩ := (hS.wants m).mp (Pool.mem_wanting_of_holds hm)
    exact ⟨m, canGoOn_of_holds hu hm hwants⟩

/-- **As long as a task has not ended some task can go on.** -/
theorem exists_canGoOn_of_task (hS : s.workers.Sound) (hsize : 0 < s.workers.pool.size)
    (ht : s.workers.tasks[n]? = some t) (he : t.stage.hasEnded = false) :
    ∃ m, CanGoOn s (.task m) := by
  cases ha : t.aborting with
  | true => exact ⟨n, canGoOn_reap ht ha he⟩
  | false =>
      cases hs : t.stage with
      | ended how =>
          rw [hs] at he
          cases he
      | queued => exact exists_canGoOn_of_queued hS hsize ht hs
      | running => exact ⟨n, canGoOn_task ht hs ha⟩
      | fresh => exact ⟨n, canGoOn_fresh ht hs ha⟩

/-! ### Calls -/

/-- A call that acquires can go on: it asks, is granted or refused what it has asked for, or holds
everything. -/
theorem canGoOn_acquiring {a : Acquisition} (hc : s.calls[call]? = some (.acquiring a))
    (htodo : a.asked = true → a.todo ≠ []) : CanGoOn s (.call call) := by
  obtain ⟨held, asked, todo⟩ := a
  cases asked with
  | true =>
      cases todo with
      | nil => exact absurd rfl (htodo rfl)
      | cons g rest =>
          refine ⟨.acquire call g.dataSource, next?_call hc, fun refusal => ?_⟩
          simp only [ConnectionEngine.step, hc, Option.bind_eq_bind, Option.bind_some,
            Acquisition.grant?]
          cases refusal
          · exact ⟨_, rfl⟩
          · exact ⟨_, rfl⟩
  | false =>
      cases todo with
      | nil =>
          refine ⟨.act (.launch call), next?_call hc, ?_⟩
          exact ⟨_, by simp only [ConnectionEngine.step, hc]; rfl⟩
      | cons g rest =>
          refine ⟨.act (.ask call), next?_call hc, ?_⟩
          exact ⟨_, by simp only [ConnectionEngine.step, hc]; rfl⟩

/-- A call that collects can go on when its next task has ended, or when there is none left. -/
theorem canGoOn_collecting {outcomes : List Success} {tasks : List Nat}
    (hc : s.calls[call]? = some (.collecting outcomes tasks))
    (hhead : ∀ n ∈ tasks.head?, ∃ t x, s.workers.tasks[n]? = some t ∧
      ConnectionEngine.collected t = some x) : CanGoOn s (.call call) := by
  refine ⟨.act (.collect call), next?_call hc, ?_⟩
  simp only [Possible, ConnectionEngine.step, hc, Option.bind_eq_bind, Option.bind_some]
  cases tasks with
  | nil => exact ⟨_, rfl⟩
  | cons n rest =>
      obtain ⟨t, x, ht, hx⟩ := hhead n rfl
      simp only [ConnectionEngine.collect, ht, hx, Option.bind_eq_bind, Option.bind_some]
      cases x
      · exact ⟨_, rfl⟩
      · exact ⟨_, rfl⟩

end ScatterGather.Connection
