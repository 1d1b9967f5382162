import ScatterGather.Proofs.Connection.Lifecycle

/-!
# Every connection is given back

The main result about the connections of a call, `connections_kept`: in every run, whatever is
refused, fails, breaks or is given up, they are asked for in order up to the first refusal, used
only when all are there, each by one runner and only until that gives it back. When the call is over
and its tasks have ended, as can always come about, each has been given back once and no permit of
the pool is with them.
-/

namespace ScatterGather

/-- A run in which a call begins among others; anything may happen besides. -/
structure ConnectionEngine.CallRun (settings : ConnectionSettings) (size : Nat) (route : Route)
    (keys : Bool) (call : Nat) (before after : List ConnectionAction) (s₀ s : ConnectionEngine) :
    Prop where
  before_run : (ConnectionEngine.new settings (.ofSize size)).run before = some s₀
  number : call = s₀.calls.length
  after_run : s₀.run (.begin route keys :: after) = some s

namespace Connection

/-! ### Runs -/

section

variable {settings : ConnectionSettings} {s s' : ConnectionEngine} {a : ConnectionAction}
  {call : Nat}

/-- What happens in a step happens for a call that has begun. -/
theorem call_lt_of_move (ho : s.Owned) (hm : s.Moves a s')
    (hs : ∀ e ∈ s.events, e.call < s.calls.length) : ∀ e ∈ s'.events, e.call < s'.calls.length := by
  have more : ∀ {events}, s'.events = s.events ++ events →
      (∀ e ∈ events, e.call < s.calls.length) → ∀ e ∈ s'.events, e.call < s'.calls.length := by
    intro events hev hevents e he
    rw [hev] at he
    exact Nat.lt_of_lt_of_le ((List.mem_append.mp he).elim (hs e) (hevents e)) hm.length_le
  cases hm with
  | begin _ _ hev _ => exact more (hev.trans (List.append_nil _).symm) nofun
  | call hc hm _ hev _ =>
      refine more hev fun e he => ?_
      rw [call_of_event hm e he]
      exact (List.getElem?_eq_some_iff.mp hc).1
  | task ht hm _ hev _ =>
      refine more hev fun e he => ?_
      rw [call_of_event_task hm e he]
      exact ho.known _ _ ht

/-- Along a run everything happens for calls that have begun. -/
theorem call_lt_of_run {size : Nat} {actions : List ConnectionAction}
    (h : (ConnectionEngine.new settings (.ofSize size)).run actions = some s) :
    ∀ e ∈ s.events, e.call < s.calls.length :=
  (foldlM_invariant
    (P := fun s => Reached settings s ∧ ∀ e ∈ s.events, e.call < s.calls.length)
    (fun hP hs => ⟨hP.1.step hs,
      call_lt_of_move hP.1.owned (ConnectionEngine.moves_of_step hs).1 hP.2⟩)
    ⟨reached_new settings size, nofun⟩ h).2

/-- The pool keeps the size it was made with. -/
theorem pool_size_of_run {size : Nat} {actions : List ConnectionAction}
    (h : (ConnectionEngine.new settings (.ofSize size)).run actions = some s) :
    s.workers.pool.size = max size 1 := by
  refine (foldlM_invariant (P := fun s => Reached settings s ∧ s.workers.pool.size = max size 1)
    ?_ ⟨reached_new settings size, rfl⟩ h).2
  rintro s a s' ⟨hR, hsize⟩ hstep
  refine ⟨hR.step hstep, ?_⟩
  cases (ConnectionEngine.moves_of_step hstep).1 with
  | begin _ _ _ hw => exact hw ▸ hsize
  | call _ _ _ _ hw | task _ _ _ _ hw => exact (hR.workers.run hw).2.trans hsize

/-- When a call runs no group and its tasks have ended nobody has a connection of it. -/
theorem none_of_ended {stage : ConnectionStage} (hc : s.calls[call]? = some stage)
    (hrun : stage.run? = none)
    (htasks : ∀ (n : Nat) (t : Worker GroupTask), s.workers.tasks[n]? = some t →
      t.body.call = call → t.stage.hasEnded = true) (w : Runner) : holding? s call w = none := by
  cases w with
  | call n =>
      by_cases hn : n = call
      · simp [holding?, hn, hc, hrun]
      · simp [holding?, hn]
  | task n =>
      cases ht : s.workers.tasks[n]? with
      | none => simp [holding?, ht]
      | some t =>
          have h := htasks n t ht
          simpa [holding?, ht, GroupTask.runFor?] using h

end

end Connection

namespace ConnectionEngine.CallRun

open Connection

variable {settings : ConnectionSettings} {size : Nat} {route : Route} {keys : Bool} {call : Nat}
  {before after : List ConnectionAction} {s₀ s : ConnectionEngine}

/-- Every engine of a run is a reachable one. -/
theorem reached (h : CallRun settings size route keys call before after s₀ s) :
    Reached settings s :=
  ((reached_new settings size).run h.before_run).run h.after_run

/-- What holds when the call has begun and is kept by every step from then on. -/
theorem induction {P : List ConnectionAction → ConnectionEngine → Prop}
    (h : CallRun settings size route keys call before after s₀ s)
    (start : ∀ s₁, s₁.calls[call]? = some (firstStage route keys) → s₁.events = s₀.events →
      s₁.workers = s₀.workers → P [] s₁)
    (next : ∀ {as u a u'}, CallRun settings size route keys call before as s₀ u → P as u →
      u.step a = some u' → P (as ++ [a]) u') : P after s := by
  obtain ⟨s₁, hbegin, hrun⟩ := foldlM_cons_eq_some.mp h.after_run
  refine foldlM_induction ?_ ?_ hrun
  · cases hbegin
    refine start _ ?_ rfl rfl
    rw [h.number]
    exact List.getElem?_concat_length
  · intro as u a u' hrun' hP hstep
    exact next ⟨h.before_run, h.number, foldlM_cons_eq_some.mpr ⟨s₁, hbegin, hrun'⟩⟩ hP hstep

/-- No task belongs to a call that begins. -/
theorem no_task (h : CallRun settings size route keys call before after s₀ s)
    {s₁ : ConnectionEngine} (hw : s₁.workers = s₀.workers) {n : Nat} {t : Worker GroupTask}
    (ht : s₁.workers.tasks[n]? = some t) : t.body.call ≠ call :=
  h.number ▸ Nat.ne_of_lt
    (((reached_new settings size).run h.before_run).owned.known n t (hw ▸ ht))

/-- When the call begins nothing has been recorded for it, and nobody has a connection of it. -/
theorem fresh (h : CallRun settings size route keys call before after s₀ s)
    {s₁ : ConnectionEngine} (hc : s₁.calls[call]? = some (firstStage route keys))
    (hevents : s₁.events = s₀.events) (hw : s₁.workers = s₀.workers) :
    (∀ e ∈ s₁.events, e.call ≠ call) ∧ ∀ w, holding? s₁ call w = none := by
  refine ⟨fun e he => ?_, none_of_ended hc (run?_firstStage route keys) fun n t ht hcall =>
    absurd hcall (h.no_task hw ht)⟩
  exact Nat.ne_of_lt (h.number ▸ call_lt_of_run h.before_run e (hevents ▸ he))

/-- **The lifecycle of the connections is kept along every run.** -/
theorem lifecycle (h : CallRun settings size route keys call before after s₀ s) :
    Lifecycle (route.groups keys) call (talks s₀ (.begin route keys :: after)) s ∧
      Disciplined route.dataSourceNames call s.events := by
  rw [← route.map_dataSource_groups keys]
  refine h.induction (P := fun as s =>
    Lifecycle (route.groups keys) call (talks s₀ (.begin route keys :: as)) s ∧
      Disciplined ((route.groups keys).map (·.dataSource)) call s.events) ?_ ?_
  · intro s₁ hc hevents hw
    obtain ⟨hfresh, hnone⟩ := h.fresh hc hevents hw
    have hquiet : ∀ talk ∈ talks s₀ [.begin route keys], talk.call ≠ call := by simp [talks_begin]
    refine ⟨?_, .of_others hfresh⟩
    rcases firstStage_cases route keys with ⟨hnil, heq⟩ | ⟨-, heq⟩
    · rw [heq] at hc
      refine .closed hc rfl (fun _ _ => hnil) ⟨?_, .inl ?_⟩ ?_ (recordedBy_others hfresh) hnone
        hquiet
      · simp only [recordedBy_others hfresh]
        exact List.nil_prefix
      · simp only [recordedBy_others hfresh]
      · simp only [recordedBy_others hfresh]
    · rw [heq] at hc
      exact .acquiring hc (Acquisition.of_ofGroups _) (.begin hfresh _) hnone hquiet
  · rintro as u a u' hu ⟨hP, hd⟩ hstep
    rw [← List.cons_append, talks_concat hu.after_run]
    exact hP.step (route.nodup_groups keys) hd (moves_of_step hstep).1

/-- A call that has begun has a stage. -/
theorem exists_stage (h : CallRun settings size route keys call before after s₀ s) :
    ∃ stage, s.calls[call]? = some stage := by
  cases h.lifecycle.1 with
  | acquiring hc _ _ _ _ | closed hc _ _ _ _ _ _ _ | launched hc _ _ _ => exact ⟨_, hc⟩

/-- **What the call has sent is what was said on its connections.** -/
theorem sentBy_eq (h : CallRun settings size route keys call before after s₀ s) :
    sentBy call s.events =
      (talks s₀ (.begin route keys :: after)).filterMap (Talk.sent? call) := by
  refine h.induction (P := fun as s => sentBy call s.events =
    (talks s₀ (.begin route keys :: as)).filterMap (Talk.sent? call)) ?_ ?_
  · intro s₁ hc hevents hw
    exact recordedBy_others (h.fresh hc hevents hw).1
  · intro as u a u' hu hP hstep
    rw [(turn_of_moves (moves_of_step hstep).1 call).sentBy_eq, hP, ← List.cons_append,
      talks_concat hu.after_run, List.filterMap_append]

/-- The pool keeps the size it was made with. -/
theorem pool_size (h : CallRun settings size route keys call before after s₀ s) :
    s.workers.pool.size = max size 1 :=
  pool_size_of_run (foldlM_append_eq_some.mpr ⟨s₀, h.before_run, h.after_run⟩)

end ConnectionEngine.CallRun

namespace Connection

/-! ### A refusal -/

/-- A call one of whose connections has been refused: it is over, and the refused connection is the
last one it has asked for. -/
structure Refused (call : Nat) (e : ExecutionError) (s : ConnectionEngine) : Prop where
  ended : s.calls[call]? = some (.ended (.error e))
  none : ∀ w, holding? s call w = none
  sent : sentBy call s.events = []
  last : ∃ source, requestedBy call s.events = acquiredBy call s.events ++ [source]

section

variable {s s' : ConnectionEngine} {a : ConnectionAction} {call : Nat} {e : ExecutionError}
  {groups : List UnitGroup} {said : List Talk}

/-- A refusal ends the call. -/
theorem refused_of_step (h : Lifecycle groups call said s)
    (hs : s.step (.acquired call (some e)) = some s') : Refused call e s' := by
  obtain ⟨stage, hc, hs⟩ := Option.bind_eq_some_iff.mp hs
  split at hs
  · next acq =>
      obtain ⟨⟨source, granted⟩, hgrant, hs⟩ := Option.bind_eq_some_iff.mp hs
      cases hs
      obtain ⟨-, hacq, hnone, -⟩ := h.of_stage hc
      obtain ⟨hasked, g, rest, ht, rfl, -⟩ := Acquisition.grant?_eq_some.mp hgrant
      have hended := List.getElem?_set_self
        (a := ConnectionStage.ended (.error e)) (List.getElem?_eq_some_iff.mp hc).1
      refine ⟨hended, none_kept hnone hended rfl rfl, ?_, g.dataSource, ?_⟩
      · show sentBy call (s.events ++ Acquisition.releases call acq.held) = []
        simp [hacq.sent]
      · show requestedBy call (s.events ++ Acquisition.releases call acq.held) =
          acquiredBy call (s.events ++ Acquisition.releases call acq.held) ++ [g.dataSource]
        simp [hacq.requested, hasked, ht]
  · cases hs

/-- Nothing happens to the connections of a call that was refused one. -/
theorem Refused.step (h : Refused call e s) (hm : s.Moves a s') : Refused call e s' := by
  obtain ⟨⟨more, hev, hothers⟩, hnone⟩ :=
    (turn_of_moves hm call).quiet h.none h.ended (not_acquiring_of_isOver rfl)
  refine ⟨isOver_kept hm h.ended rfl, hnone, ?_, ?_⟩
  · simp [hev, h.sent, recordedBy_others hothers]
  · simpa [hev, recordedBy_others hothers] using h.last

end

/-! ### The main result -/

/-- What holds at any time of the connections of a call that has begun. -/
structure ConnectionsKept (size : Nat) (route : Route) (call : Nat)
    (actions : List ConnectionAction) (said : List Talk) (s : ConnectionEngine) : Prop where
  /-- They are asked for in the order in which the data sources first appear, -/
  requested : requestedBy call s.events <+: route.dataSourceNames
  /-- for each data source once, -/
  once : (requestedBy call s.events).Nodup
  /-- each when those before it have come, and used when all have come. -/
  disciplined : Disciplined route.dataSourceNames call s.events
  /-- A call that has succeeded has got them all. -/
  complete : ∀ r, s.calls[call]? = some (.ended (.ok r)) →
    acquiredBy call s.events = route.dataSourceNames
  /-- A refusal ends the call, before it has sent anything or asked for anything more. -/
  refused : ∀ e, .acquired call (some e) ∈ actions → Refused call e s
  /-- A call without units asks for nothing and is over at once. -/
  empty : route.units = [] → s.calls[call]? = some (.ended (.ok .empty)) ∧
    requestedBy call s.events = [] ∧ sentBy call s.events = []
  /-- Whatever is sent is said on a connection, -/
  sent : sentBy call s.events = said.filterMap (Talk.sent? call)
  /-- all that is said on one connection is said by one runner, -/
  owner : ∃ who : String → Runner, ∀ talk ∈ said, talk.call = call → talk.who = who talk.source
  /-- and only when all connections have come and this one has not gone back. -/
  used : ∀ a, ∀ talk ∈ talk? s a, talk.call = call →
    acquiredBy call s.events = route.dataSourceNames ∧ talk.source ∈ acquiredBy call s.events ∧
      talk.source ∉ releasedBy call s.events
  /-- When the call is over and its tasks have ended, each connection that came has gone back, once,
  for its own data source, and none of its tasks has or wants a permit. -/
  released : ∀ stage, s.calls[call]? = some stage → stage.isOver = true →
    (∀ (n : Nat) (t : Worker GroupTask), s.workers.tasks[n]? = some t → t.body.call = call →
      t.stage.hasEnded = true) →
    (releasedBy call s.events).Perm (acquiredBy call s.events) ∧
      (releasedBy call s.events).Nodup ∧
      ∀ n ∈ s.workers.pool.wanting, ∀ t, s.workers.tasks[n]? = some t → t.body.call ≠ call
  /-- It comes to that: from wherever it stands the call can be over and its tasks ended. -/
  ends : ∃ more s' stage, s.run more = some s' ∧ s'.calls[call]? = some stage ∧
    stage.isOver = true ∧ ∀ (n : Nat) (t : Worker GroupTask), s'.workers.tasks[n]? = some t →
      t.body.call = call → t.stage.hasEnded = true
  /-- Every permit is free, or with a task that has not ended. -/
  permits : s.workers.pool.free + s.workers.pool.holders.length = max size 1 ∧
    s.workers.pool.holders.Nodup ∧
    ∀ n ∈ s.workers.pool.holders, ∃ t, s.workers.tasks[n]? = some t ∧ t.stage.hasEnded = false

section

variable {settings : ConnectionSettings} {size : Nat} {route : Route} {keys : Bool} {call : Nat}
  {before after : List ConnectionAction} {s₀ s : ConnectionEngine}

/-- A task that has or wants a permit has not ended. -/
theorem hasEnded_of_wanting (h : s.workers.Sound) {n : Nat} (hn : n ∈ s.workers.pool.wanting) :
    ∃ t, s.workers.tasks[n]? = some t ∧ t.stage.hasEnded = false := by
  obtain ⟨t, ht, hwants⟩ := (h.wants n).mp hn
  refine ⟨t, ht, ?_⟩
  cases hs : t.stage <;> simp_all [WorkerStage.wants, WorkerStage.hasEnded]

/-- A call of which a connection was refused in a run has been over from then on. -/
theorem refused_of_run
    (h : ConnectionEngine.CallRun settings size route keys call before after s₀ s) :
    ∀ e, .acquired call (some e) ∈ after → Refused call e s := by
  refine h.induction (P := fun as s => ∀ e, .acquired call (some e) ∈ as → Refused call e s)
    (fun _ _ _ _ => nofun) ?_
  intro as u a u' hu hP hstep e he
  rcases List.mem_append.mp he with he | he
  · exact (hP e he).step (ConnectionEngine.moves_of_step hstep).1
  · obtain rfl := List.mem_singleton.mp he
    exact refused_of_step hu.lifecycle.1 hstep

/-- A call without units has been over from the beginning. -/
theorem ended_of_empty
    (h : ConnectionEngine.CallRun settings size route keys call before after s₀ s)
    (hempty : route.units = []) : s.calls[call]? = some (.ended (.ok .empty)) := by
  refine h.induction (P := fun _ s => s.calls[call]? = some (.ended (.ok .empty))) ?_ ?_
  · intro s₁ hc _ _
    rwa [ConnectionEngine.firstStage, hempty] at hc
  · intro as u a u' _ hP hstep
    exact isOver_kept (ConnectionEngine.moves_of_step hstep).1 hP rfl

/-- When a call is over its tasks can come to an end. -/
theorem tasks_canEnd {stage : ConnectionStage} (hR : Reached settings s)
    (hc : s.calls[call]? = some stage) (hover : stage.isOver = true) :
    ∃ more s', s.run more = some s' ∧ s'.calls[call]? = some stage ∧
      ∀ (n : Nat) (t : Worker GroupTask), s'.workers.tasks[n]? = some t → t.body.call = call →
        t.stage.hasEnded = true := by
  -- By induction on what is left to do: as long as a task has not ended something can happen.
  induction hn : work s using Nat.strongRecOn generalizing s with
  | _ m ih =>
      subst hn
      by_cases htasks : ∃ (n : Nat) (t : Worker GroupTask), s.workers.tasks[n]? = some t ∧
          t.stage.hasEnded = false
      case neg =>
        refine ⟨[], s, rfl, hc, fun n t ht _ => ?_⟩
        cases he : t.stage.hasEnded with
        | true => rfl
        | false => exact absurd ⟨n, t, ht, he⟩ htasks
      obtain ⟨n, t, ht, he⟩ := htasks
      obtain ⟨a, s₁, hs₁, ha, -⟩ :=
        canStep_of_task (fun _ _ _ => .error default) hR.workers hR.size_pos ht he
      have hm := (ConnectionEngine.moves_of_step hs₁).1
      have hlt : work s₁ < work s := work_lt hm fun route keys heq => by
        rw [heq] at ha
        cases ha
      obtain ⟨more, s', hrun, hend⟩ := ih (work s₁) hlt (hR.step hs₁) (isOver_kept hm hc hover) rfl
      exact ⟨a :: more, s', foldlM_cons_eq_some.mpr ⟨s₁, hs₁, hrun⟩, hend⟩

/-- A call that is not over can be given up. -/
theorem exists_over (hc : ∃ stage, s.calls[call]? = some stage) :
    ∃ more s' stage, s.run more = some s' ∧ s'.calls[call]? = some stage ∧
      stage.isOver = true := by
  obtain ⟨stage, hc⟩ := hc
  have dropped : ∀ s', s.step (.drop call) = some s' → s'.calls = s.calls.set call .dropped →
      ∃ more s' stage, s.run more = some s' ∧ s'.calls[call]? = some stage ∧
        stage.isOver = true := by
    intro s' hs hcalls
    refine ⟨[.drop call], s', .dropped, foldlM_cons_eq_some.mpr ⟨s', hs, rfl⟩, ?_, rfl⟩
    rw [hcalls, List.getElem?_set_self (List.getElem?_eq_some_iff.mp hc).1]
  cases stage with
  | ended _ | panicked _ | dropped => exact ⟨[], s, _, rfl, hc, rfl⟩
  | acquiring _ | running _ _ | collecting _ _ =>
      exact dropped _ (by rw [ConnectionEngine.step, hc]; rfl) rfl

/-- **The connections of a call are kept in order**, in every run, whatever is refused, fails,
breaks or is given up. -/
theorem connections_kept
    (h : ConnectionEngine.CallRun settings size route keys call before after s₀ s) :
    ConnectionsKept size route call after (talks s₀ (.begin route keys :: after)) s := by
  obtain ⟨hlife, hd⟩ := h.lifecycle
  have hsources := route.map_dataSource_groups keys
  have hnodup := route.nodup_groups keys
  have hS := h.reached.workers
  have hrequested : requestedBy call s.events <+: route.dataSourceNames :=
    hsources ▸ hlife.asked.inOrder
  constructor
  case requested => exact hrequested
  case once => exact (hsources ▸ hnodup).sublist hrequested.sublist
  case disciplined => exact hd
  case complete => exact fun r hc => hsources ▸ hlife.complete hc
  case refused => exact refused_of_run h
  case empty =>
    intro hempty
    have hnil : route.dataSourceNames = [] := by rw [Route.dataSourceNames, hempty]; rfl
    refine ⟨ended_of_empty h hempty, List.prefix_nil.mp (hnil ▸ hrequested), ?_⟩
    refine List.eq_nil_iff_forall_not_mem.mpr fun x hx => ?_
    have hmem := hd.mem_of_sent hx
    rw [hnil] at hmem
    cases hmem
  case sent => exact h.sentBy_eq
  case owner => exact hlife.owner
  case used =>
    intro a talk htalk hcall
    exact hsources ▸ hlife.used htalk hcall
  case released =>
    intro stage hc hover htasks
    obtain ⟨hperm, hnodup⟩ := hlife.released hnodup hc hover
      (none_of_ended hc (ConnectionStage.run?_of_isOver hover) htasks)
    refine ⟨hperm, hnodup, fun n hn t ht hcall => ?_⟩
    obtain ⟨t', ht', hrunning⟩ := hasEnded_of_wanting hS hn
    obtain rfl := Option.some.inj (ht.symm.trans ht')
    cases (htasks n t ht hcall).symm.trans hrunning
  case ends =>
    obtain ⟨more, s₁, stage, hrun, hc, hover⟩ := exists_over h.exists_stage
    obtain ⟨more', s', hrun', hend⟩ := tasks_canEnd (h.reached.run hrun) hc hover
    exact ⟨more ++ more', s', stage, foldlM_append_eq_some.mpr ⟨s₁, hrun, hrun'⟩, hend.1, hover,
      hend.2⟩
  case permits =>
    refine ⟨hS.pool.balance.trans h.pool_size, ?_, fun n hn =>
      hasEnded_of_wanting hS (Pool.mem_wanting_of_holds hn)⟩
    exact (List.nodup_append.mp hS.nodup).1

/-- The first group fails while the second waits for a permit. -/
def firstGroupFails : List ConnectionAction :=
  [.ask 0, .acquired 0 none, .ask 0, .acquired 0 none, .launch 0, .request 0, .send (.call 0),
    .answer (.call 0) (.result (.ok (.error (.ofMessage "ds_0")))), .reap 0]

/-- A call that fails while its task waits for a permit keeps no connection. -/
theorem connections_kept_first_fails : ∃ s₀ s,
    ConnectionEngine.CallRun ⟨.connectionStrictly, false⟩ 1 twoGroups false 0 [] firstGroupFails
      s₀ s ∧
    acquiredBy 0 s.events = ["ds_0", "ds_1"] ∧
    (releasedBy 0 s.events).Perm ["ds_0", "ds_1"] ∧ s.workers.pool.free = 1 := by
  have h : ConnectionEngine.CallRun ⟨.connectionStrictly, false⟩ 1 twoGroups false 0 []
      firstGroupFails _ _ := ⟨rfl, rfl, rfl⟩
  have hkept := connections_kept h
  refine ⟨_, _, h, rfl, (hkept.released _ rfl rfl ?_).1, rfl⟩
  intro n t ht _
  cases n with
  | zero =>
      cases ht
      rfl
  | succ n => cases ht

end

end Connection

end ScatterGather
