import ScatterGather.Proofs.Connection.GivenBack

/-!
# The pool stops nobody for good

The main result about calls that share a worker pool, `never_stuck`: however many calls there are,
whatever they are refused and answered, and however small the pool, as long as a call is not over or
a task has not ended somebody can go on. Callers wait for tasks and tasks wait for permits, but a
permit is with a task that waits for nothing but its own connection, so nobody waits in a circle.
Where nobody can go on all calls are over and all permits are free, and every schedule comes to
that.
-/

namespace ScatterGather.Connection

/-- Every call is over, every task has ended, and every permit is free. -/
structure AtRest (size : Nat) (s : ConnectionEngine) : Prop where
  callsOver : ∀ stage ∈ s.calls, stage.isOver = true
  tasksEnded : ∀ t ∈ s.workers.tasks, t.stage.hasEnded = true
  free : s.workers.pool.free = max size 1
  held : s.workers.pool.holders = []
  queued : s.workers.pool.queue = []

/-! ### Calls and tasks in order -/

/-- A call that acquires has asked only for what it has still to acquire, and a task that has ended
can be collected. -/
structure Orderly (s : ConnectionEngine) : Prop where
  acquiring : ∀ (call : Nat) (a : Acquisition), s.calls[call]? = some (.acquiring a) →
    ∃ groups, a.Of groups
  collected : ∀ (n : Nat) (t : Worker GroupTask), s.workers.tasks[n]? = some t →
    t.stage.hasEnded = true → ∃ x, ConnectionEngine.collected t = some x

section

variable {settings : ConnectionSettings} {size : Nat} {s s' : ConnectionEngine}
  {a : ConnectionAction} {actions : List ConnectionAction}

theorem orderly_new (settings : ConnectionSettings) (pool : Pool) :
    Orderly (.new settings pool) where
  acquiring call a hc := by cases hc
  collected n t ht := by cases ht

/-- A task that ends in a step can be collected. -/
theorem collected_of_steps {n : Nat} {t t' : Worker GroupTask}
    {events : List (DispatchEvent SentStatement)} (h : GroupTask.Steps s n t a events t')
    (he : t'.stage.hasEnded = true) : ∃ x, ConnectionEngine.collected t' = some x := by
  cases h with
  | runs hs _ _ =>
      rw [hs] at he
      cases he
  | @ends how _ _ _ => cases how <;> exact ⟨_, rfl⟩
  | requested _ _ | started _ _ _ => cases he
  | reaped _ _ => exact ⟨_, rfl⟩

theorem Orderly.step (h : Orderly s) (hm : s.Moves a s') : Orderly s' where
  acquiring call acq hc' := by
    rcases hm.stage_origin hc' with hc | ⟨stage, _, _, hc, hmoves⟩ | ⟨route, keys, hfirst⟩
    · exact h.acquiring call acq hc
    · cases hmoves with
      | asked hask =>
          obtain ⟨groups, hof⟩ := h.acquiring call _ hc
          exact ⟨groups, hof.ask hask⟩
      | granted hgrant =>
          obtain ⟨groups, hof⟩ := h.acquiring call _ hc
          exact ⟨groups, hof.grant hgrant⟩
    · rcases ConnectionEngine.firstStage_cases route keys with ⟨-, heq⟩ | ⟨-, heq⟩
      · cases hfirst.trans heq
      · cases hfirst.trans heq
        exact ⟨_, Acquisition.of_ofGroups _⟩
  collected n t' ht' he := by
    rcases hm.task_origin ht' with ⟨t, ht⟩ | ⟨_, _, _, _, _, _, -, hfresh⟩
    · obtain ⟨t'', ht'', hcases⟩ := hm.task_cases ht
      obtain rfl := Option.some.inj (ht'.symm.trans ht'')
      rcases hcases with rfl | rfl | ⟨_, hs⟩
      · exact h.collected n _ ht he
      · exact h.collected n t ht he
      · exact collected_of_steps hs he
    · rw [hfresh] at he
      cases he

theorem orderly_of_run (h : (ConnectionEngine.new settings (.ofSize size)).run actions = some s) :
    Orderly s :=
  foldlM_invariant (P := Orderly) (fun hP hs => hP.step (ConnectionEngine.moves_of_step hs).1)
    (orderly_new ..) h

/-! ### Somebody can go on -/

/-- **As long as a call is not over somebody can go on**: the call itself, or, while it waits for a
task that has not ended, a task. -/
theorem exists_canGoOn_of_call (hR : Reached settings s) (hO : Orderly s) {call : Nat}
    {stage : ConnectionStage} (hc : s.calls[call]? = some stage) (hover : stage.isOver = false) :
    ∃ who, CanGoOn s who := by
  cases stage with
  | acquiring a =>
      obtain ⟨groups, hof⟩ := hO.acquiring call a hc
      exact ⟨.call call, canGoOn_acquiring hc hof.todo_ne⟩
  | running run tasks => exact ⟨.call call, canGoOn_running hc⟩
  | collecting outcomes tasks =>
      cases tasks with
      | nil => exact ⟨.call call, canGoOn_collecting hc (by simp)⟩
      | cons n rest =>
          obtain ⟨t, ht, -⟩ := hR.owned.mine call _ n hc (List.mem_cons_self ..)
          cases he : t.stage.hasEnded with
          | false =>
              obtain ⟨m, hm⟩ := exists_canGoOn_of_task hR.workers hR.size_pos ht he
              exact ⟨.task m, hm⟩
          | true =>
              obtain ⟨x, hx⟩ := hO.collected n t ht he
              refine ⟨.call call, canGoOn_collecting hc fun m hm => ?_⟩
              obtain rfl := Option.some.inj hm
              exact ⟨t, x, ht, hx⟩
  | ended _ | panicked _ | dropped => cases hover

/-- **Where nobody can go on everything is at rest.** -/
theorem atRest_of_still (hR : Reached settings s) (hO : Orderly s)
    (hsize : s.workers.pool.size = max size 1) (hstill : ∀ who, ¬CanGoOn s who) :
    AtRest size s := by
  have hended : ∀ (n : Nat) (t : Worker GroupTask), s.workers.tasks[n]? = some t →
      t.stage.hasEnded = true := by
    intro n t ht
    by_contra he
    obtain ⟨m, hm⟩ := exists_canGoOn_of_task hR.workers hR.size_pos ht (by simpa using he)
    exact hstill _ hm
  -- A task that has or wants a permit has not ended.
  have hwanting : s.workers.pool.wanting = [] := by
    refine List.eq_nil_iff_forall_not_mem.mpr fun n hn => ?_
    obtain ⟨t, ht, he⟩ := hasEnded_of_wanting hR.workers hn
    cases he.symm.trans (hended n t ht)
  obtain ⟨hheld, hqueued⟩ := List.append_eq_nil_iff.mp hwanting
  refine ⟨fun stage hstage => ?_, fun t ht => ?_, ?_, hheld, hqueued⟩
  · obtain ⟨call, hc⟩ := List.mem_iff_getElem?.mp hstage
    by_contra hover
    obtain ⟨who, hwho⟩ := exists_canGoOn_of_call hR hO hc (by simpa using hover)
    exact hstill who hwho
  · obtain ⟨n, hn⟩ := List.mem_iff_getElem?.mp ht
    exact hended n t hn
  · have hbalance := hR.workers.pool.balance
    rwa [hheld, List.length_nil, Nat.add_zero, hsize] at hbalance

/-- Everything can be brought to rest, by steps by which calls go on. -/
theorem exists_atRest (h : (ConnectionEngine.new settings (.ofSize size)).run actions = some s) :
    ∃ more s', s.run more = some s' ∧ (∀ a ∈ more, GoesOn a) ∧ AtRest size s' := by
  -- By induction on what is left to do: while somebody can go on there is less behind that step.
  induction hn : work s using Nat.strongRecOn generalizing s actions with
  | _ n ih =>
      subst hn
      by_cases hstill : ∃ who, CanGoOn s who
      · obtain ⟨who, hwho⟩ := hstill
        obtain ⟨a, s₁, hs₁, ha, -⟩ := canStep_of_canGoOn (fun _ _ _ => .error default) hwho
        have hlt : work s₁ < work s :=
          work_lt (ConnectionEngine.moves_of_step hs₁).1 fun route keys heq => by
            rw [heq] at ha
            cases ha
        obtain ⟨more, s', hrun, hmore, hrest⟩ :=
          ih (work s₁) hlt (foldlM_concat_eq_some.mpr ⟨s, h, hs₁⟩) rfl
        exact ⟨a :: more, s', foldlM_cons_eq_some.mpr ⟨s₁, hs₁, hrun⟩,
          List.forall_mem_cons.mpr ⟨ha, hmore⟩, hrest⟩
      · exact ⟨[], s, rfl, by simp, atRest_of_still ((reached_new settings size).run h)
          (orderly_of_run h) (pool_size_of_run h) (not_exists.mp hstill)⟩

/-! ### Calls return -/

/-- A call that is over has returned, been given up, or broken. -/
theorem returned_of_run (h : (ConnectionEngine.new settings (.ofSize size)).run actions = some s)
    {call : Nat} {stage : ConnectionStage} (hc : s.calls[call]? = some stage)
    (hover : stage.isOver = true) :
    (∃ r, stage = .ended r) ∨ .drop call ∈ actions ∨
      ∃ message, .answer (.call call) (.panic message) ∈ actions := by
  refine foldlM_induction (P := fun as s => ∀ stage, s.calls[call]? = some stage →
    stage.isOver = true → (∃ r, stage = .ended r) ∨ .drop call ∈ as ∨
      ∃ message, .answer (.call call) (.panic message) ∈ as) (by rintro _ ⟨⟩) ?_ h stage hc hover
  intro as u a u' _ hP hstep stage' hc' hover
  rcases (ConnectionEngine.moves_of_step hstep).1.stage_origin hc' with
    hc | ⟨stage, _, _, hc, hmoves⟩ | ⟨route, keys, rfl⟩
  · simp only [List.mem_append]
    rcases hP stage' hc hover with hr | hd | ⟨message, hp⟩
    · exact .inl hr
    · exact .inr (.inl (.inl hd))
    · exact .inr (.inr ⟨message, .inl hp⟩)
  · cases hmoves with
    | refused _ | launchedNothing _ _ | fails _ | collectedFailure _ _ | collectedAll =>
        exact .inl ⟨_, rfl⟩
    | @breaks _ _ _ message hm =>
        cases hm with
        | panics _ => exact .inr (.inr ⟨message, by simp⟩)
    | droppedAcquiring | droppedRunning | droppedCollecting => exact .inr (.inl (by simp))
    | asked _ | granted _ | launched _ _ | runs _ | completes _ | collected _ _ => cases hover
  · rcases ConnectionEngine.firstStage_cases route keys with ⟨-, heq⟩ | ⟨-, heq⟩
    · exact .inl ⟨_, heq⟩
    · rw [heq] at hover
      cases hover

/-! ### The main result -/

/-- What holds at any time of the calls that share a pool. -/
structure NeverStuck (size : Nat) (actions : List ConnectionAction) (s : ConnectionEngine) :
    Prop where
  /-- As long as a call is not over somebody can go on, -/
  calls : ∀ stage ∈ s.calls, stage.isOver = false → ∃ who, CanGoOn s who
  /-- and as long as a task has not ended. -/
  tasks : ∀ t ∈ s.workers.tasks, t.stage.hasEnded = false → ∃ who, CanGoOn s who
  /-- Where nobody can go on every call is over and every permit is free. -/
  still : (∀ who, ¬CanGoOn s who) → AtRest size s
  /-- A call that is over has returned, unless it was given up or its own connection broke. -/
  returned : ∀ call stage, s.calls[call]? = some stage → stage.isOver = true →
    .drop call ∉ actions → (∀ message, .answer (.call call) (.panic message) ∉ actions) →
    ∃ r, stage = .ended r
  /-- No schedule goes on for ever, unless new calls begin, -/
  halts : ∀ more s', s.run more = some s' → (∀ route keys, .begin route keys ∉ more) →
    more.length + work s' ≤ work s
  /-- and it can come to rest from anywhere. -/
  rests : ∃ more s', s.run more = some s' ∧ (∀ a ∈ more, GoesOn a) ∧ AtRest size s'

/-- **The pool stops nobody for good**, whatever its size and whatever calls share it. -/
theorem never_stuck (h : (ConnectionEngine.new settings (.ofSize size)).run actions = some s) :
    NeverStuck size actions s := by
  have hR : Reached settings s := (reached_new settings size).run h
  have hO := orderly_of_run h
  constructor
  case calls =>
    intro stage hstage hover
    obtain ⟨call, hc⟩ := List.mem_iff_getElem?.mp hstage
    exact exists_canGoOn_of_call hR hO hc hover
  case tasks =>
    intro t ht he
    obtain ⟨n, hn⟩ := List.mem_iff_getElem?.mp ht
    obtain ⟨m, hm⟩ := exists_canGoOn_of_task hR.workers hR.size_pos hn he
    exact ⟨.task m, hm⟩
  case still => exact atRest_of_still hR hO (pool_size_of_run h)
  case returned =>
    intro call stage hc hover hdrop hpanic
    rcases returned_of_run h hc hover with hr | hd | ⟨message, hp⟩
    · exact hr
    · exact absurd hd hdrop
    · exact absurd hp (hpanic message)
  case halts => exact fun _ _ hrun hb => length_le_work hrun hb
  case rests => exact exists_atRest h

/-- Two calls share one permit: both have finished their own groups and wait for their tasks, one
of which has the permit while the other queues for it. -/
def twoCallsOnePermit : List ConnectionAction :=
  [0, 1].flatMap fun call =>
    [.begin twoGroups false, .ask call, .acquired call none, .ask call, .acquired call none,
      .launch call, .request call, .send (.call call),
      .answer (.call call) (.result (.ok (.update ⟨1, 0⟩))), .finish (.call call)]

/-- Two calls that wait on one permit can go on, and come to rest with the permit free. -/
theorem never_stuck_two_calls : ∃ s,
    (ConnectionEngine.new ⟨.connectionStrictly, false⟩ (.ofSize 1)).run twoCallsOnePermit = some s ∧
    s.calls.length = 2 ∧ s.workers.pool.free = 0 ∧ s.workers.pool.queue = [1] ∧
    (∃ who, CanGoOn s who) ∧
    ∃ more s', s.run more = some s' ∧ s'.workers.pool.free = 1 ∧
      ∀ stage ∈ s'.calls, stage.isOver = true := by
  have h : (ConnectionEngine.new ⟨.connectionStrictly, false⟩ (.ofSize 1)).run
      twoCallsOnePermit = some _ := rfl
  have hnever := never_stuck h
  obtain ⟨more, s', hrun, -, hrest⟩ := hnever.rests
  exact ⟨_, h, rfl, rfl, rfl, hnever.calls _ (List.mem_cons_self ..) rfl, more, s', hrun,
    hrest.free, hrest.callsOver⟩

end

end ScatterGather.Connection
