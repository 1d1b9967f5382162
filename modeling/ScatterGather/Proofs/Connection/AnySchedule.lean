import ScatterGather.Proofs.Connection.Progress

/-!
# Scheduling does not show

The main result about connections, `executed_as_in_turn`: however calls and tasks are scheduled and
whenever answers come, a call whose connections answer as functions of what was sent over them
before gives what the plain reference gives, in which one group is executed after another. Every
schedule comes to an end, and the call can be brought to its own from wherever it stands.
-/

namespace ScatterGather.Connection

/-! ### Reachable engines -/

/-- What holds of every engine: its tasks are in order, its pool has a permit, and nothing has been
sent for calls that have not begun. -/
structure Reached (settings : ConnectionSettings) (s : ConnectionEngine) : Prop where
  settings_eq : s.settings = settings
  owned : s.Owned
  workers : s.workers.Sound
  size_pos : 0 < s.workers.pool.size
  unused : ∀ (call : Nat) (source : String), s.calls.length ≤ call →
    unitsOn call source s.events = []

/-- What a run exchanges, in its order. -/
def exchanges (s : ConnectionEngine) (actions : List ConnectionAction) : List Exchange :=
  emitted ConnectionEngine.step exchange? s actions

section

variable {settings : ConnectionSettings} {s s' : ConnectionEngine} {a : ConnectionAction}
  {actions : List ConnectionAction} {answers : ConnectionAnswers} {groups : List UnitGroup}
  {call : Nat}

theorem reached_new (settings : ConnectionSettings) (size : Nat) :
    Reached settings (.new settings (.ofSize size)) where
  settings_eq := rfl
  owned := ConnectionEngine.owned_new ..
  workers := Workers.sound_ofPool (Pool.sound_ofSize size) rfl
  size_pos := Pool.size_ofSize_pos size
  unused _ _ _ := rfl

theorem Reached.step (h : Reached settings s) (hs : s.step a = some s') : Reached settings s' := by
  obtain ⟨hm, hset⟩ := ConnectionEngine.moves_of_step hs
  have hlen := hm.length_le
  refine ⟨hset.trans h.settings_eq, h.owned.move hm, ?_, ?_, ?_⟩
  · cases hm with
    | begin _ _ _ hw => exact hw ▸ h.workers
    | call _ _ _ _ hw | task _ _ _ _ hw => exact (h.workers.run hw).1
  · cases hm with
    | begin _ _ _ hw => exact hw ▸ h.size_pos
    | call _ _ _ _ hw | task _ _ _ _ hw => exact (h.workers.run hw).2 ▸ h.size_pos
  · intro call source hcall
    have hold := h.unused call source (Nat.le_trans hlen hcall)
    cases hm with
    | begin _ _ hev _ => rwa [hev]
    | call hc hm hcalls hev _ =>
        have hlt := (List.getElem?_eq_some_iff.mp hc).1
        rw [hev, unitsOn_append, hold, hm.unitsOn_eq (by omega), List.nil_append]
    | task ht hm _ hev hw =>
        have hlt := h.owned.known _ _ ht
        obtain ⟨t', -, hsteps⟩ := hm.steps ht hw
        rw [hev, unitsOn_append, hold, hsteps.unitsOn_eq (by omega), List.nil_append]

theorem Reached.run (h : Reached settings s) (hr : s.run actions = some s') :
    Reached settings s' :=
  foldlM_invariant (P := Reached settings) (fun hP hs => hP.step hs) h hr

/-- A call is not given up by a step by which calls go on. -/
theorem OnCourse.not_dropped (h : OnCourse answers groups call s)
    (hdropped : s.calls[call]? ≠ some .dropped) (hs : s.step a = some s') (ha : GoesOn a) :
    s'.calls[call]? ≠ some .dropped := by
  obtain ⟨stage, hc, -⟩ := h.resolve_left hdropped
  obtain ⟨stage', hc', hstage⟩ := (ConnectionEngine.moves_of_step hs).1.call_behind hc
  rw [hc']
  rintro heq
  cases heq
  rcases hstage with rfl | ⟨_, _, hm, -⟩
  · exact hdropped hc
  · cases hm <;> cases ha

/-- **Every schedule comes to an end**, as long as no new call begins. -/
theorem length_le_work (h : s.run actions = some s')
    (hb : ∀ route keys, .begin route keys ∉ actions) : actions.length + work s' ≤ work s := by
  induction actions generalizing s with
  | nil =>
      cases h
      simp
  | cons a actions ih =>
      obtain ⟨s₁, hs₁, h⟩ := foldlM_cons_eq_some.mp h
      have hlt := work_lt (ConnectionEngine.moves_of_step hs₁).1
        fun route keys heq => hb route keys (heq ▸ List.mem_cons_self ..)
      have := ih h fun route keys hmem => hb route keys (List.mem_cons_of_mem _ hmem)
      rw [List.length_cons]
      omega

/-- **A call that has not been given up can be brought to its end**, by steps by which calls go on
and answers as the connections give them. -/
theorem OnCourse.canEnd (h : OnCourse answers groups call s) (hR : Reached settings s)
    (hnodup : (groups.map (·.dataSource)).Nodup) (hdropped : s.calls[call]? ≠ some .dropped) :
    ∃ more s', s.run more = some s' ∧ (∀ a ∈ more, GoesOn a) ∧
      (∀ x ∈ exchanges s more, x.answer = .result (answers x.source x.before x.unit)) ∧
      s'.calls[call]? = some (.ended (executeGroups settings.strategy answers groups)) := by
  -- By induction on what is left to do: something can happen, and leaves less.
  induction hn : work s using Nat.strongRecOn generalizing s with
  | _ n ih =>
      subst hn
      rcases h.exists_step hR.workers hR.size_pos hdropped with hend | ⟨a, s₁, hs₁, ha, hans⟩
      · rw [hR.settings_eq] at hend
        exact ⟨[], s, rfl, by simp, by simp [exchanges, emitted], hend⟩
      obtain ⟨hm, hset⟩ := ConnectionEngine.moves_of_step hs₁
      have hlt : work s₁ < work s := work_lt hm fun route keys heq => by
        rw [heq] at ha
        cases ha
      have hgranted : ∀ e, a ≠ .acquired call (some e) := by
        rintro e rfl
        cases ha
      have h₁ := h.move hR.owned hm hset hnodup hgranted (hans call)
      obtain ⟨more, s', hrun, hmore, hex, hend⟩ :=
        ih (work s₁) hlt h₁ (hR.step hs₁) (h.not_dropped hdropped hs₁ ha) rfl
      refine ⟨a :: more, s', foldlM_cons_eq_some.mpr ⟨s₁, hs₁, hrun⟩,
        List.forall_mem_cons.mpr ⟨ha, hmore⟩, ?_, hend⟩
      intro x hx
      simp only [exchanges, emitted, hs₁, Option.map_some, Option.getD_some, List.mem_append,
        Option.mem_toList] at hx
      rcases hx with hx | hx
      · exact hans x.call x hx rfl
      · exact hex x hx

end

/-! ### A call from its beginning on -/

/-- A run in which a call begins: all its connections are acquired, and each answers as a function
of what was sent over it before. -/
structure ConnectionRun (settings : ConnectionSettings) (size : Nat) (route : Route) (keys : Bool)
    (answers : ConnectionAnswers) (call : Nat) (before after : List ConnectionAction)
    (s₀ s : ConnectionEngine) : Prop where
  before_run : (ConnectionEngine.new settings (.ofSize size)).run before = some s₀
  number : call = s₀.calls.length
  after_run : s₀.run (.begin route keys :: after) = some s
  granted : ∀ e, .acquired call (some e) ∉ after
  answered : ∀ x ∈ exchanges s₀ (.begin route keys :: after), x.call = call →
    x.answer = .result (answers x.source x.before x.unit)

namespace ConnectionRun

variable {settings : ConnectionSettings} {size : Nat} {route : Route} {keys : Bool}
  {answers : ConnectionAnswers} {call : Nat} {before after : List ConnectionAction}
  {s₀ s : ConnectionEngine}

/-- Every engine of a run is a reachable one. -/
theorem reached (h : ConnectionRun settings size route keys answers call before after s₀ s) :
    Reached settings s :=
  ((reached_new settings size).run h.before_run).run h.after_run

/-- A call that begins is on its course. -/
theorem onCourse_begin (h : ConnectionRun settings size route keys answers call before after s₀ s)
    {s₁ : ConnectionEngine} (hs : s₀.step (.begin route keys) = some s₁) :
    OnCourse answers (route.groups keys) call s₁ := by
  cases hs
  refine .inr ⟨ConnectionEngine.firstStage route keys, ?_, ?_⟩
  · rw [h.number]
    exact List.getElem?_concat_length
  · rcases ConnectionEngine.firstStage_cases route keys with ⟨hnil, heq⟩ | ⟨hne, heq⟩
    · rw [heq]
      exact .ended (by rw [hnil]; rfl)
    · have hR := (reached_new settings size).run h.before_run
      rw [heq]
      exact .acquiring hne (Acquisition.of_ofGroups _)
        fun g _ => hR.unused call _ (Nat.le_of_eq h.number.symm)

/-- **A call stays on its course along every run.** -/
theorem onCourse (h : ConnectionRun settings size route keys answers call before after s₀ s) :
    OnCourse answers (route.groups keys) call s := by
  obtain ⟨s₁, hs₁, hrun⟩ := foldlM_cons_eq_some.mp h.after_run
  have hR₁ := ((reached_new settings size).run h.before_run).step hs₁
  suffices hP : Reached settings s ∧
      (after <+: after → OnCourse answers (route.groups keys) call s) from
    hP.2 (List.prefix_refl after)
  refine foldlM_induction
    (P := fun as s => Reached settings s ∧
      (as <+: after → OnCourse answers (route.groups keys) call s))
    ⟨hR₁, fun _ => h.onCourse_begin hs₁⟩ ?_ hrun
  intro as u a u' hrun ⟨hR, hP⟩ hstep
  refine ⟨hR.step hstep, ?_⟩
  intro hpre
  obtain ⟨hm, hset⟩ := ConnectionEngine.moves_of_step hstep
  refine (hP ((List.prefix_append as [a]).trans hpre)).move hR.owned hm hset
    (route.nodup_groups keys) ?_ ?_
  · rintro e rfl
    exact h.granted e (hpre.subset (by simp))
  · intro x hx hcall
    refine h.answered x ?_ hcall
    obtain ⟨rest, hrest⟩ := hpre
    have hemitted : x ∈ emitted ConnectionEngine.step exchange? s₁ after := by
      rw [← hrest, emitted_append (foldlM_concat_eq_some.mpr ⟨u, hrun, hstep⟩),
        emitted_concat hrun, hx]
      simp
    simpa [exchanges, emitted, hs₁] using .inr hemitted

/-- The result of a call is that of the reference. -/
theorem result (h : ConnectionRun settings size route keys answers call before after s₀ s)
    {r : Except ExecutionError Response} (hend : s.calls[call]? = some (.ended r)) :
    r = route.executeInTurn settings.strategy answers keys := by
  rcases h.onCourse with hdropped | ⟨stage, hc, hcourse⟩
  · cases hend.symm.trans hdropped
  · cases hend.symm.trans hc
    cases hcourse with
    | ended hr => exact h.reached.settings_eq ▸ hr

/-- A run can be continued by steps by which calls go on, with answers as the connections give
them. -/
theorem extend (h : ConnectionRun settings size route keys answers call before after s₀ s)
    {more : List ConnectionAction} {s' : ConnectionEngine} (hrun : s.run more = some s')
    (hmore : ∀ a ∈ more, GoesOn a)
    (hans : ∀ x ∈ exchanges s more, x.answer = .result (answers x.source x.before x.unit)) :
    ConnectionRun settings size route keys answers call before (after ++ more) s₀ s' where
  before_run := h.before_run
  number := h.number
  after_run := by
    rw [← List.cons_append]
    exact foldlM_append_eq_some.mpr ⟨s, h.after_run, hrun⟩
  granted e he := by
    rcases List.mem_append.mp he with he | he
    · exact h.granted e he
    · cases hmore _ he
  answered x hx hcall := by
    rw [← List.cons_append, exchanges, emitted_append h.after_run] at hx
    rcases List.mem_append.mp hx with hx | hx
    · exact h.answered x hx hcall
    · exact hans x hx

end ConnectionRun

/-- **Every statement can be dispatched over connections**, whatever they answer. -/
theorem exists_connectionRun (settings : ConnectionSettings) (size : Nat) (route : Route)
    (keys : Bool) (answers : ConnectionAnswers) :
    ∃ after s₀ s, ConnectionRun settings size route keys answers 0 [] after s₀ s ∧
      s.calls[0]? = some (.ended (route.executeInTurn settings.strategy answers keys)) := by
  have hnone : exchanges (.new settings (.ofSize size)) [.begin route keys] = [] := rfl
  have h : ConnectionRun settings size route keys answers 0 [] [] _ _ :=
    ⟨rfl, rfl, rfl, by simp, by simp [hnone]⟩
  have hdropped : some (ConnectionEngine.firstStage route keys) ≠ some .dropped := by
    rcases ConnectionEngine.firstStage_cases route keys with ⟨-, heq⟩ | ⟨-, heq⟩ <;>
      simp [heq]
  obtain ⟨more, s, hrun, hmore, hans, hend⟩ :=
    h.onCourse.canEnd h.reached (route.nodup_groups keys) hdropped
  exact ⟨[] ++ more, _, s, h.extend hrun hmore hans, hend⟩

/-! ### The main result -/

/-- **Scheduling does not show.** Whenever a call ends, its result is that of the plain reference,
which is what the answers to its units call for; unless it is given up it can be brought to that
end; and every schedule without new calls comes to an end. -/
theorem executed_as_in_turn {settings : ConnectionSettings} {size : Nat} {route : Route}
    {keys : Bool} {answers : ConnectionAnswers} {call : Nat} {before after : List ConnectionAction}
    {s₀ s : ConnectionEngine}
    (h : ConnectionRun settings size route keys answers call before after s₀ s) :
    (∀ r, s.calls[call]? = some (.ended r) →
      r = route.executeInTurn settings.strategy answers keys) ∧
    InTurnVerdict settings.strategy answers route keys
      (route.executeInTurn settings.strategy answers keys) ∧
    (s.calls[call]? ≠ some .dropped → ∃ more s', s.run more = some s' ∧ (∀ a ∈ more, GoesOn a) ∧
      (∀ x ∈ exchanges s more, x.answer = .result (answers x.source x.before x.unit)) ∧
      s'.calls[call]? = some (.ended (route.executeInTurn settings.strategy answers keys))) ∧
    ∀ more s', s.run more = some s' → (∀ route keys, .begin route keys ∉ more) →
      more.length + work s' ≤ work s :=
  ⟨fun _ hend => h.result hend, inTurnVerdict_executeInTurn .., fun hdropped =>
    h.onCourse.canEnd h.reached (route.nodup_groups keys) hdropped,
    fun _ _ hrun hb => length_le_work hrun hb⟩

/-- A statement for two data sources. -/
def twoGroups : Route :=
  ((Route.ofStatement (.ofKind .dml)).withUnit "ds_0" "a").withUnit "ds_1" "b"

/-- Every data source answers with an error of its own. -/
def allRefused : ConnectionAnswers := fun source _ _ => .ok (.error (.ofMessage source))

/-- The second group fails first. -/
def laterGroupFirst : List ConnectionAction :=
  [.ask 0, .acquired 0 none, .ask 0, .acquired 0 none, .launch 0, .request 0, .start 0,
    .send (.task 0), .answer (.task 0) (.result (.ok (.error (.ofMessage "ds_1")))),
    .send (.call 0), .answer (.call 0) (.result (.ok (.error (.ofMessage "ds_0"))))]

/-- The failure of the first group decides, though that of the second comes first. -/
theorem executed_as_in_turn_later_first : ∃ s₀ s,
    ConnectionRun ⟨.connectionStrictly, false⟩ 1 twoGroups false allRefused 0 [] laterGroupFirst
      s₀ s ∧
    s.calls[0]? = some (.ended (twoGroups.executeInTurn .connectionStrictly allRefused false)) ∧
    twoGroups.executeInTurn .connectionStrictly allRefused false =
      .error (.driver "ds_0" (.ofMessage "ds_0")) := by
  have hx : exchanges (.new ⟨.connectionStrictly, false⟩ (.ofSize 1))
      (.begin twoGroups false :: laterGroupFirst) =
        [⟨0, "ds_1", [], ⟨1, "ds_1", "b", false⟩, .result (.ok (.error (.ofMessage "ds_1")))⟩,
          ⟨0, "ds_0", [], ⟨0, "ds_0", "a", false⟩, .result (.ok (.error (.ofMessage "ds_0")))⟩] :=
    rfl
  have h : ConnectionRun ⟨.connectionStrictly, false⟩ 1 twoGroups false allRefused 0 []
      laterGroupFirst _ _ :=
    ⟨rfl, rfl, rfl, by simp [laterGroupFirst], by rw [hx]; simp [allRefused]⟩
  have hr := (executed_as_in_turn h).1 _ rfl
  exact ⟨_, _, h, congrArg (some ∘ ConnectionStage.ended) hr, hr.symm⟩

end ScatterGather.Connection
