import ScatterGather.Proofs.Acquisition
import ScatterGather.Proofs.Connection.Tasks

/-!
# The course of a call over connections

However calls and tasks are scheduled, a call stays on the course of the plain reference
(`ConnectionCourse`): each of its groups has run so far as the units sent over its connection say,
the groups that it has collected have given what the reference gives for them, and the others are
with tasks that nobody tells to stop. Every move of the engine keeps this (`OnCourse.move`), whoever
makes it, unless the call is given up.
-/

namespace ScatterGather.Connection

/-! ### Answers -/

/-- An answer with what it is for: the unit, and those sent before it over the same connection. -/
structure Exchange where
  call : Nat
  source : String
  before : List PhysicalUnit
  unit : PhysicalUnit
  answer : ConnectionAnswer

/-- The group that is run, and the call it is of. -/
def group? (s : ConnectionEngine) : Runner → Option (Nat × GroupRun)
  | .call call =>
    match s.calls[call]? with
    | some (.running run _) => some (call, run)
    | _ => none
  | .task n => (s.running? n).map fun t => (t.call, t.run)

/-- What is exchanged by an action. -/
def exchange? (s : ConnectionEngine) : ConnectionAction → Option Exchange
  | .answer who answer => do
    let (call, run) ← group? s who
    let u ← run.awaited
    return ⟨call, run.dataSource, (unitsOn call run.dataSource s.events).dropLast, u, answer⟩
  | _ => none

/-- What an action exchanges for a call is what its connections answer. -/
def AnswersAs (answers : ConnectionAnswers) (call : Nat) (s : ConnectionEngine)
    (a : ConnectionAction) : Prop :=
  ∀ x, exchange? s a = some x → x.call = call →
    x.answer = .result (answers x.source x.before x.unit)

/-! ### A group on its way -/

/-- A group of which some units have been sent: all of them have been kept but one that may be
awaited. -/
structure InTurn (σ : ConnectionStrategy) (answers : ConnectionAnswers) (g : UnitGroup)
    (sent : List PhysicalUnit) (run : GroupRun) : Prop where
  source : run.dataSource = g.dataSource
  units : g.units = sent ++ run.rest
  outcomes : ∃ before, sent = before ++ run.awaited.toList ∧
    executeUnits σ answers g.dataSource [] before = .ok run.outcomes

/-- What becomes of a group is what the reference makes of it. -/
def FollowsTurn (σ : ConnectionStrategy) (answers : ConnectionAnswers) (g : UnitGroup)
    (sent : List PhysicalUnit) (run : GroupRun) : GroupRun.Next → Prop
  | .goesOn run' => InTurn σ answers g sent run'
  | .ends .completed => g.execute σ answers = .ok run.outcomes
  | .ends (.failed e) => g.execute σ answers = .error e
  | .ends (.panicked _) => False

section

variable {σ : ConnectionStrategy} {answers : ConnectionAnswers} {g : UnitGroup}
  {sent : List PhysicalUnit} {run : GroupRun} {who : Runner} {a : ConnectionAction}
  {u : Option PhysicalUnit} {next : GroupRun.Next}

theorem inTurn_ofGroup (σ : ConnectionStrategy) (answers : ConnectionAnswers) (g : UnitGroup) :
    InTurn σ answers g [] (.ofGroup g) :=
  ⟨rfl, rfl, [], rfl, rfl⟩

/-- **A group that is answered as its connection does follows the reference.** -/
theorem InTurn.move (h : InTurn σ answers g sent run) (hm : run.Moves σ who a u next)
    (hans : ∀ v answer, run.awaited = some v → a = .answer who answer →
      answer = .result (answers g.dataSource sent.dropLast v)) :
    FollowsTurn σ answers g (sent ++ u.toList) run next := by
  obtain ⟨hsource, hunits, before, hsent, hout⟩ := h
  cases hm with
  | sends ha hr =>
      rw [ha, Option.toList_none, List.append_nil] at hsent
      exact ⟨hsource, by simp [hunits, hr], before, by simp [hsent], hout⟩
  | @keeps v r x ha hk =>
      rw [ha, Option.toList_some] at hsent
      have hr := hans v _ ha rfl
      rw [hsent, List.dropLast_concat] at hr
      cases hr
      refine ⟨hsource, by simp [hunits], sent, by simp, ?_⟩
      rw [hsent]
      exact executeUnits_concat hout hk
  | @fails v r e ha hk =>
      rw [ha, Option.toList_some] at hsent
      have hr := hans v _ ha rfl
      rw [hsent, List.dropLast_concat] at hr
      cases hr
      show g.execute σ answers = .error e
      rw [UnitGroup.execute, hunits, hsent, List.append_assoc]
      exact executeUnits_error hout hk
  | @panics v message ha =>
      cases hans v _ ha rfl
  | completes ha hr =>
      rw [ha, Option.toList_none, List.append_nil] at hsent
      show g.execute σ answers = .ok run.outcomes
      rw [UnitGroup.execute, hunits, hr, List.append_nil, hsent]
      exact hout

end

/-! ### A task on its way -/

/-- Where a task stands that has been given a group, when so much has been sent over its
connection. -/
inductive TaskCourse (σ : ConnectionStrategy) (answers : ConnectionAnswers) (call : Nat)
    (g : UnitGroup) (sent : List PhysicalUnit) : Worker GroupTask → Prop where
  | waiting {stage} (hs : stage = .fresh ∨ stage = .queued) (hsent : sent = []) :
    TaskCourse σ answers call g sent ⟨stage, false, ⟨call, .ofGroup g, none⟩⟩
  | running {run} (hr : InTurn σ answers g sent run) :
    TaskCourse σ answers call g sent ⟨.running, false, ⟨call, run, none⟩⟩
  | ended {run} (hsource : run.dataSource = g.dataSource) :
    TaskCourse σ answers call g sent
      ⟨.ended .finished, false, ⟨call, run, some (g.execute σ answers)⟩⟩

namespace TaskCourse

variable {σ : ConnectionStrategy} {answers : ConnectionAnswers} {call n : Nat} {g : UnitGroup}
  {sent : List PhysicalUnit} {t t' : Worker GroupTask} {s : ConnectionEngine}
  {a : ConnectionAction} {events : List (DispatchEvent SentStatement)}

theorem source_eq (h : TaskCourse σ answers call g sent t) :
    t.body.run.dataSource = g.dataSource := by
  cases h with
  | waiting _ _ => rfl
  | running hr => exact hr.source
  | ended hsource => exact hsource

theorem call_eq (h : TaskCourse σ answers call g sent t) : t.body.call = call := by
  cases h <;> rfl

/-- A task that is collected gives what the reference gives for its group. -/
theorem collected (h : TaskCourse σ answers call g sent t)
    {x : Except ExecutionError (List Success)} (hx : ConnectionEngine.collected t = some x) :
    g.execute σ answers = x := by
  cases h with
  | waiting hs _ => rcases hs with rfl | rfl <;> cases hx
  | running _ => cases hx
  | ended _ => exact Option.some.inj hx

/-- A task goes on its way by its own steps. -/
theorem steps
    (h : TaskCourse s.settings.strategy answers call g (unitsOn call g.dataSource s.events) t)
    (ht : s.workers.tasks[n]? = some t) (hs : GroupTask.Steps s n t a events t')
    (hans : AnswersAs answers call s a) :
    TaskCourse s.settings.strategy answers call g
      (unitsOn call g.dataSource (s.events ++ events)) t' := by
  rw [unitsOn_append]
  cases h with
  | waiting hst hsent =>
      cases hs with
      | runs hs _ _ | ends hs _ _ => rcases hst with rfl | rfl <;> cases hs
      | requested _ _ => exact .waiting (.inr rfl) (by simpa [unitsOn] using hsent)
      | started _ _ _ =>
          refine .running ?_
          rw [hsent]
          exact inTurn_ofGroup ..
      | reaped _ ha => cases ha
  | @running run hr =>
      have hbody : s.running? n = some ⟨call, run, none⟩ :=
        ConnectionEngine.running?_eq_some.mpr ⟨_, ht, rfl, rfl, rfl⟩
      have hanswer : ∀ v answer, run.awaited = some v → a = .answer (.task n) answer →
          answer =
            .result (answers g.dataSource (unitsOn call g.dataSource s.events).dropLast v) := by
        rintro v answer hv rfl
        have := hans ⟨call, run.dataSource, (unitsOn call run.dataSource s.events).dropLast, v,
          answer⟩ (by simp [exchange?, group?, hbody, hv]) rfl
        rwa [hr.source] at this
      cases hs with
      | runs _ _ hm =>
          rw [unitsOn_sent, if_pos ⟨rfl, hr.source⟩]
          exact .running (hr.move hm hanswer)
      | @ends how _ _ hm =>
          have hf := hr.move hm hanswer
          cases how with
          | completed =>
              have hf : g.execute s.settings.strategy answers = .ok run.outcomes := hf
              rw [GroupEnd.result, ← hf]
              exact .ended hr.source
          | failed e =>
              have hf : g.execute s.settings.strategy answers = .error e := hf
              rw [GroupEnd.result, ← hf]
              exact .ended hr.source
          | panicked message => exact hf.elim
      | requested hs _ | started hs _ _ => cases hs
      | reaped _ ha => cases ha
  | ended _ => cases hs.hasEnded

end TaskCourse

/-! ### The tasks of a call on their way -/

/-- Each of the groups is with one of the tasks, which is on its way. -/
def TasksOnCourse (σ : ConnectionStrategy) (answers : ConnectionAnswers) (call : Nat)
    (w : Workers GroupTask) (events : List (DispatchEvent SentStatement))
    (groups : List UnitGroup) (tasks : List Nat) : Prop :=
  List.Forall₂ (fun g n => ∃ t, w.tasks[n]? = some t ∧
    TaskCourse σ answers call g (unitsOn call g.dataSource events) t) groups tasks

namespace TasksOnCourse

variable {σ : ConnectionStrategy} {answers : ConnectionAnswers} {call n : Nat}
  {w w' : Workers GroupTask} {events events' : List (DispatchEvent SentStatement)}
  {groups : List UnitGroup} {tasks : List Nat} {g : UnitGroup}

/-- Tasks that nobody moves stay on their way. -/
theorem frame (h : TasksOnCourse σ answers call w events groups tasks)
    (hw : ∀ n ∈ tasks, ∀ t, w.tasks[n]? = some t → w'.tasks[n]? = some t)
    (hev : ∀ g ∈ groups, unitsOn call g.dataSource events' = unitsOn call g.dataSource events) :
    TasksOnCourse σ answers call w' events' groups tasks := by
  induction h with
  | nil => exact .nil
  | cons hhead _ ih =>
      obtain ⟨t, ht, hcourse⟩ := hhead
      refine .cons ⟨t, hw _ (List.mem_cons_self ..) t ht, ?_⟩ (ih ?_ ?_)
      · rwa [hev _ (List.mem_cons_self ..)]
      · exact fun m hm => hw m (List.mem_cons_of_mem _ hm)
      · exact fun g hg => hev g (List.mem_cons_of_mem _ hg)

/-- A task of the call has one of the groups. -/
theorem exists_group (h : TasksOnCourse σ answers call w events groups tasks)
    {t : Worker GroupTask} (hn : n ∈ tasks) (ht : w.tasks[n]? = some t) :
    ∃ g ∈ groups, TaskCourse σ answers call g (unitsOn call g.dataSource events) t := by
  induction h with
  | nil => cases hn
  | cons hhead _ ih =>
      rcases List.mem_cons.mp hn with rfl | hn
      · obtain ⟨u, hu, hcourse⟩ := hhead
        obtain rfl := Option.some.inj (hu.symm.trans ht)
        exact ⟨_, List.mem_cons_self .., hcourse⟩
      · obtain ⟨g, hg, hcourse⟩ := ih hn
        exact ⟨g, List.mem_cons_of_mem _ hg, hcourse⟩

/-- Groups that are spawned are on their way. -/
theorem spawned {tasks : List (Worker GroupTask)}
    (hw : w.tasks = tasks ++ groups.map fun g => ⟨.fresh, false, ⟨call, .ofGroup g, none⟩⟩)
    (hev : ∀ g ∈ groups, unitsOn call g.dataSource events = []) :
    TasksOnCourse σ answers call w events groups (List.range' tasks.length groups.length) := by
  induction groups generalizing tasks with
  | nil => exact .nil
  | cons g groups ih =>
      obtain ⟨hg, hev⟩ := List.forall_mem_cons.mp hev
      refine .cons ⟨_, ?_, .waiting (.inl rfl) hg⟩ ?_
      · rw [hw, List.getElem?_append_right (Nat.le_refl _), Nat.sub_self]
        rfl
      · have hw' : w.tasks = (tasks ++ [⟨.fresh, false, ⟨call, .ofGroup g, none⟩⟩]) ++
            groups.map fun g => ⟨.fresh, false, ⟨call, .ofGroup g, none⟩⟩ := by simpa using hw
        simpa [TasksOnCourse] using ih hw' hev

/-- A task of the call goes on its way, and leaves the others on theirs. -/
theorem steps {s : ConnectionEngine} {a : ConnectionAction} {t t' : Worker GroupTask}
    (h : TasksOnCourse s.settings.strategy answers call s.workers s.events groups tasks)
    (hnodup : (groups.map (·.dataSource)).Nodup) (hn : n ∈ tasks)
    (ht : s.workers.tasks[n]? = some t) (hs : GroupTask.Steps s n t a events t')
    (hans : AnswersAs answers call s a) (ht' : w'.tasks[n]? = some t')
    (hkept : ∀ m t, m ≠ n → s.workers.tasks[m]? = some t → w'.tasks[m]? = some t) :
    TasksOnCourse s.settings.strategy answers call w' (s.events ++ events) groups tasks := by
  have hother : ∀ g : UnitGroup, g.dataSource ≠ t.body.run.dataSource →
      unitsOn call g.dataSource (s.events ++ events) = unitsOn call g.dataSource s.events := by
    intro g hg
    rw [unitsOn_append, hs.unitsOn_eq fun heq => hg heq.2.symm, List.append_nil]
  induction h with
  | nil => cases hn
  | @cons g m groups tasks hhead htail ih =>
      obtain ⟨hg, hnodup⟩ := List.nodup_cons.mp hnodup
      by_cases hmn : m = n
      · subst hmn
        obtain ⟨u, hu, hcourse⟩ := hhead
        obtain rfl := Option.some.inj (hu.symm.trans ht)
        -- No other group is for the data source of this one, so no other task is this one.
        have hne : ∀ g' ∈ groups, g'.dataSource ≠ u.body.run.dataSource := fun g' hg' heq =>
          hg (List.mem_map.mpr ⟨g', hg', heq.trans hcourse.source_eq⟩)
        refine .cons ⟨t', ht', hcourse.steps ht hs hans⟩ (frame htail ?_ fun g' hg' =>
          hother g' (hne g' hg'))
        intro m' hm' t₁ ht₁
        refine hkept m' t₁ ?_ ht₁
        rintro rfl
        obtain ⟨g', hg', hcourse'⟩ := exists_group htail hm' ht
        exact hne g' hg' hcourse'.source_eq.symm
      · have hn : n ∈ tasks := (List.mem_cons.mp hn).resolve_left fun heq => hmn heq.symm
        obtain ⟨g', hg', hcourse'⟩ := exists_group htail hn ht
        have hne : g.dataSource ≠ t.body.run.dataSource := fun heq =>
          hg (List.mem_map.mpr ⟨g', hg', hcourse'.source_eq.symm.trans heq.symm⟩)
        obtain ⟨u, hu, hcourse⟩ := hhead
        refine .cons ⟨u, hkept m u hmn hu, ?_⟩ (ih hnodup hn)
        rwa [hother g hne]

end TasksOnCourse

/-! ### The course of a call -/

/-- What the reference makes of groups. -/
def executeGroups (σ : ConnectionStrategy) (answers : ConnectionAnswers)
    (groups : List UnitGroup) : Except ExecutionError Response := do
  let outcomes ← groups.mapM (UnitGroup.execute σ answers)
  Response.ofUnits outcomes.flatten

/-- Where a call stands with its groups. -/
inductive ConnectionCourse (σ : ConnectionStrategy) (answers : ConnectionAnswers)
    (groups : List UnitGroup) (call : Nat) (w : Workers GroupTask)
    (events : List (DispatchEvent SentStatement)) : ConnectionStage → Prop where
  | acquiring {a} (hne : groups ≠ []) (ha : a.Of groups)
    (hsent : ∀ g ∈ groups, unitsOn call g.dataSource events = []) :
    ConnectionCourse σ answers groups call w events (.acquiring a)
  | running {run tasks first others} (hg : groups = first :: others)
    (hr : InTurn σ answers first (unitsOn call first.dataSource events) run)
    (ht : TasksOnCourse σ answers call w events others tasks) :
    ConnectionCourse σ answers groups call w events (.running run tasks)
  | collecting {outcomes tasks done rest} (hg : groups = done ++ rest)
    (ho : done.mapM (UnitGroup.execute σ answers) = .ok outcomes)
    (ht : TasksOnCourse σ answers call w events rest tasks) :
    ConnectionCourse σ answers groups call w events (.collecting outcomes.flatten tasks)
  | ended {r} (hr : r = executeGroups σ answers groups) :
    ConnectionCourse σ answers groups call w events (.ended r)

section

variable {σ : ConnectionStrategy} {answers : ConnectionAnswers} {rest : List UnitGroup}
  {g : UnitGroup} {outcomes : List (List Success)} (done : List UnitGroup)

/-- The first group that fails decides. -/
theorem executeGroups_eq_error {e : ExecutionError}
    (ho : done.mapM (UnitGroup.execute σ answers) = .ok outcomes)
    (he : g.execute σ answers = .error e) :
    executeGroups σ answers (done ++ g :: rest) = .error e := by
  rw [executeGroups, List.mapM_append, ho, List.mapM_cons, he]
  rfl

/-- One group more that gives outcomes. -/
theorem mapM_execute_concat {more : List Success}
    (ho : done.mapM (UnitGroup.execute σ answers) = .ok outcomes)
    (hg : g.execute σ answers = .ok more) :
    (done ++ [g]).mapM (UnitGroup.execute σ answers) = .ok (outcomes ++ [more]) := by
  rw [List.mapM_append, ho, List.mapM_cons, hg]
  rfl

end

namespace ConnectionCourse

variable {answers : ConnectionAnswers} {groups : List UnitGroup} {call : Nat}
  {stage stage' : ConnectionStage} {s : ConnectionEngine} {a : ConnectionAction}
  {events : List (DispatchEvent SentStatement)} {actions : List (WorkerAction GroupTask)}
  {w : Workers GroupTask}

/-- What others do leaves a call on its course. -/
theorem frame {σ : ConnectionStrategy} {w w' : Workers GroupTask}
    {events events' : List (DispatchEvent SentStatement)}
    (h : ConnectionCourse σ answers groups call w events stage)
    (hw : ∀ n ∈ stage.tasks, ∀ t, w.tasks[n]? = some t → w'.tasks[n]? = some t)
    (hev : ∀ source, unitsOn call source events' = unitsOn call source events) :
    ConnectionCourse σ answers groups call w' events' stage := by
  cases h with
  | acquiring hne ha hsent => exact .acquiring hne ha fun g hg => (hev _).trans (hsent g hg)
  | running hg hr ht => exact .running hg ((hev _).symm ▸ hr) (ht.frame hw fun g _ => hev _)
  | collecting hg ho ht => exact .collecting hg ho (ht.frame hw fun g _ => hev _)
  | ended hr => exact .ended hr

/-- The group that a call runs itself goes on its way by its own steps. -/
theorem follows {run : GroupRun} {tasks : List Nat} {first : UnitGroup}
    {u : Option PhysicalUnit} {next : GroupRun.Next}
    (hc : s.calls[call]? = some (.running run tasks))
    (hr : InTurn s.settings.strategy answers first (unitsOn call first.dataSource s.events) run)
    (hm : run.Moves s.settings.strategy (.call call) a u next)
    (hans : AnswersAs answers call s a) :
    FollowsTurn s.settings.strategy answers first
      (unitsOn call first.dataSource s.events ++ u.toList) run next := by
  refine hr.move hm ?_
  rintro v answer hv rfl
  have := hans ⟨call, run.dataSource, (unitsOn call run.dataSource s.events).dropLast, v,
    answer⟩ (by simp [exchange?, group?, hc, hv]) rfl
  rwa [hr.source] at this

/-- **A call goes on its course by its own steps**, unless it is given up. -/
theorem own (h : ConnectionCourse s.settings.strategy answers groups call s.workers s.events stage)
    (hc : s.calls[call]? = some stage) (hm : stage.Moves s call a events actions stage')
    (hw : s.workers.run actions = some w) (hnodup : (groups.map (·.dataSource)).Nodup)
    (hgranted : ∀ e, a ≠ .acquired call (some e)) (hans : AnswersAs answers call s a) :
    stage' = .dropped ∨
      ConnectionCourse s.settings.strategy answers groups call w (s.events ++ events) stage' := by
  have hquiet : ∀ source, unitsOn call source events = [] →
      unitsOn call source (s.events ++ events) = unitsOn call source s.events := by
    intro source hnil
    rw [unitsOn_append, hnil, List.append_nil]
  cases hm with
  | droppedAcquiring | droppedRunning | droppedCollecting => exact .inl rfl
  | asked hask =>
      cases h with
      | acquiring hne ha hsent =>
          exact .inr (.acquiring hne (ha.ask hask) fun g hg => (hquiet _ rfl).trans (hsent g hg))
  | granted hgrant =>
      cases h with
      | acquiring hne ha hsent =>
          refine .inr (.acquiring hne (ha.grant hgrant) ?_)
          intro g hg
          exact (hquiet _ rfl).trans (hsent g hg)
  | refused _ => exact absurd rfl (hgranted _)
  | @launched _ first others hcomplete hheld =>
      cases h with
      | acquiring hne ha hsent =>
          obtain rfl : first :: others = groups := hheld.symm.trans (ha.held_eq hcomplete)
          obtain ⟨hfirst, hothers⟩ := List.forall_mem_cons.mp hsent
          rw [List.append_nil]
          refine .inr (.running rfl ?_ (.spawned (tasks_of_spawns hw) hothers))
          rw [hfirst]
          exact inTurn_ofGroup ..
  | launchedNothing hcomplete hheld =>
      cases h with
      | acquiring hne ha hsent => exact absurd ((ha.held_eq hcomplete).symm.trans hheld) hne
  | @runs _ run run' _ sent hm =>
      cases h with
      | @running _ _ first others hg hr ht =>
          have hf : InTurn _ _ _ _ run' := follows hc hr hm hans
          have hfirst : first.dataSource ∉ others.map (·.dataSource) := by
            rw [hg, List.map_cons] at hnodup
            exact (List.nodup_cons.mp hnodup).1
          cases hw
          refine .inr (.running hg ?_ (ht.frame (fun _ _ _ h => h) fun g hg => hquiet _ ?_))
          · rwa [unitsOn_append, unitsOn_sent, if_pos ⟨rfl, hr.source⟩]
          · rw [unitsOn_sent, if_neg]
            rintro ⟨-, heq⟩
            exact hfirst (List.mem_map.mpr ⟨g, hg, heq.symm.trans hr.source⟩)
  | @completes _ run _ hm =>
      cases h with
      | @running _ _ first others hg hr ht =>
          have hf : first.execute _ answers = .ok run.outcomes := follows hc hr hm hans
          have ho := mapM_execute_concat [] rfl hf
          have hout : [run.outcomes].flatten = run.outcomes := by simp
          cases hw
          rw [← hout]
          exact .inr (.collecting hg ho (ht.frame (fun _ _ _ h => h) fun g _ => hquiet _ rfl))
  | fails hm =>
      cases h with
      | running hg hr ht =>
          have hf := follows hc hr hm hans
          subst hg
          exact .inr (.ended (executeGroups_eq_error [] rfl hf).symm)
  | breaks hm =>
      cases h with
      | running hg hr ht => exact (follows hc hr hm hans).elim
  | collected htask hx =>
      cases h with
      | @collecting outcomes _ done _ hg ho ht =>
          cases ht with
          | cons hhead htail =>
              obtain ⟨t, ht, hcourse⟩ := hhead
              obtain rfl := Option.some.inj (ht.symm.trans htask)
              have ho := mapM_execute_concat done ho (hcourse.collected hx)
              cases hw
              rw [← List.flatten_concat]
              exact .inr (.collecting (by simp [hg]) ho
                (TasksOnCourse.frame htail (fun _ _ _ h => h) fun g _ => hquiet _ rfl))
  | collectedFailure htask hx =>
      cases h with
      | @collecting outcomes _ done _ hg ho ht =>
          cases ht with
          | cons hhead htail =>
              obtain ⟨t, ht, hcourse⟩ := hhead
              obtain rfl := Option.some.inj (ht.symm.trans htask)
              rw [hg]
              exact .inr (.ended (executeGroups_eq_error done ho (hcourse.collected hx)).symm)
  | collectedAll =>
      cases h with
      | collecting hg ho ht =>
          cases ht
          rw [List.append_nil] at hg
          refine .inr (.ended ?_)
          rw [hg, executeGroups, ho]
          rfl

/-- A task of a call leaves it on its course. -/
theorem task (h : ConnectionCourse s.settings.strategy answers groups call s.workers s.events stage)
    (hnodup : (groups.map (·.dataSource)).Nodup) {n : Nat} {t t' : Worker GroupTask}
    (hn : n ∈ stage.tasks) (ht : s.workers.tasks[n]? = some t)
    (hs : GroupTask.Steps s n t a events t')
    (hans : AnswersAs answers call s a) (ht' : w.tasks[n]? = some t')
    (hkept : ∀ m t, m ≠ n → s.workers.tasks[m]? = some t → w.tasks[m]? = some t) :
    ConnectionCourse s.settings.strategy answers groups call w (s.events ++ events) stage := by
  cases h with
  | acquiring _ _ _ => cases hn
  | @running _ _ first others hg hr htasks =>
      rw [hg, List.map_cons, List.nodup_cons] at hnodup
      refine .running hg ?_ (htasks.steps hnodup.2 hn ht hs hans ht' hkept)
      -- The task works on another group, so nothing is sent over the first connection.
      obtain ⟨g, hmem, hcourse⟩ := htasks.exists_group hn ht
      rwa [unitsOn_append, hs.unitsOn_eq, List.append_nil]
      rintro ⟨-, heq⟩
      exact hnodup.1 (List.mem_map.mpr ⟨g, hmem, hcourse.source_eq.symm.trans heq⟩)
  | collecting hg ho htasks =>
      rw [hg, List.map_append, List.nodup_append] at hnodup
      exact .collecting hg ho (htasks.steps hnodup.2.1 hn ht hs hans ht' hkept)
  | ended hr => cases hn

end ConnectionCourse

/-- A call is on its course, or has been given up. -/
def OnCourse (answers : ConnectionAnswers) (groups : List UnitGroup) (call : Nat)
    (s : ConnectionEngine) : Prop :=
  s.calls[call]? = some .dropped ∨ ∃ stage, s.calls[call]? = some stage ∧
    ConnectionCourse s.settings.strategy answers groups call s.workers s.events stage

/-- **Every move leaves a call on its course** that its connections answer as they do. -/
theorem OnCourse.move {answers : ConnectionAnswers} {groups : List UnitGroup} {call : Nat}
    {s s' : ConnectionEngine} {a : ConnectionAction} (h : OnCourse answers groups call s)
    (hO : s.Owned) (hm : s.Moves a s') (hset : s'.settings = s.settings)
    (hnodup : (groups.map (·.dataSource)).Nodup)
    (hgranted : ∀ e, a ≠ .acquired call (some e)) (hans : AnswersAs answers call s a) :
    OnCourse answers groups call s' := by
  rcases h with hdropped | ⟨stage, hc, hs⟩
  · obtain ⟨stage', hc', rfl | ⟨_, _, hm, -⟩⟩ := hm.call_behind hdropped
    · exact .inl hc'
    · cases hm.isOver
  rw [OnCourse, hset]
  cases hm with
  | begin _ hcalls hev hw =>
      exact .inr ⟨stage, hcalls ▸ getElem?_append_of_eq_some hc, hev ▸ hw ▸ hs⟩
  | @call k ck stage' _ _ hck hm hcalls hev hw =>
      by_cases hk : k = call
      · subst hk
        obtain rfl := Option.some.inj (hc.symm.trans hck)
        have hself : s'.calls[k]? = some stage' := by
          rw [hcalls, List.getElem?_set_self (List.getElem?_eq_some_iff.mp hc).1]
        rw [hself, hev]
        rcases hs.own hc hm hw hnodup hgranted hans with rfl | hs'
        · exact .inl rfl
        · exact .inr ⟨stage', rfl, hs'⟩
      · refine .inr ⟨stage, by rw [hcalls, List.getElem?_set_ne hk, hc], hs.frame ?_ ?_⟩
        · intro n hn t ht
          apply Workers.task_kept_of_run hw ht
          intro x hx heq
          obtain ⟨u, hu, hown⟩ := hO.mine k ck n hck (hm.task_mem x hx n heq)
          obtain ⟨u', hu', hown'⟩ := hO.mine call stage n hc hn
          obtain rfl := Option.some.inj (hu.symm.trans hu')
          exact hk (hown.symm.trans hown')
        · intro source
          rw [hev, unitsOn_append, hm.unitsOn_eq hk, List.append_nil]
  | @task n t _ _ ht hm hcalls hev hw =>
      obtain ⟨t', htasks, hsteps⟩ := hm.steps ht hw
      have ht' : s'.workers.tasks[n]? = some t' := by
        rw [htasks, List.getElem?_set_self (List.getElem?_eq_some_iff.mp ht).1]
      have hkept : ∀ m u, m ≠ n → s.workers.tasks[m]? = some u → s'.workers.tasks[m]? = some u :=
        fun m u hmn hu => by rw [htasks, List.getElem?_set_ne (Ne.symm hmn), hu]
      refine .inr ⟨stage, hcalls ▸ hc, ?_⟩
      rw [hev]
      by_cases hcall : t.body.call = call
      · rcases hO.standing n t stage ht (hcall ▸ hc) with he | hn | ho
        · rw [hsteps.hasEnded] at he
          cases he
        · exact hs.task hnodup hn ht hsteps hans ht' hkept
        · cases hs with
          | ended hr => exact .ended hr
          | acquiring _ _ _ | running _ _ _ | collecting _ _ _ => cases ho
      · refine hs.frame (fun m hmem u hu => hkept m u ?_ hu) ?_
        · rintro rfl
          obtain ⟨u', hu', hown⟩ := hO.mine call stage m hc hmem
          obtain rfl := Option.some.inj (ht.symm.trans hu')
          exact hcall hown
        · intro source
          rw [unitsOn_append, hsteps.unitsOn_eq fun heq => hcall heq.1, List.append_nil]

end ScatterGather.Connection
