import ScatterGather.Proofs.Acquisition
import ScatterGather.Proofs.Forward.Cleanup

/-!
# What a forwarding call does, in order

What a call does to its surroundings is read off what its steps change (`ForwardEngine.deed?`): a
channel comes, a wait is entered into the registry, a request goes into a channel, the call begins
to wait, or it fails. Put in order this is the `story` of the call. There is one script for it
(`forwardScript`), and a call follows it until it stops or fails (`Follows`): the stage at which it
stands says how far it has come (`OnScript`), and every step takes it on (`OnScript.step`).
-/

namespace ScatterGather

/-! ### The story of a call -/

/-- What a call does to its surroundings. -/
inductive ForwardDeed where
  /-- A channel to a data source has come. -/
  | acquires (source : String)
  /-- A wait is registered under an id, for so many replies. -/
  | registers (id : CorrelationId) (expected : Nat)
  /-- A request goes into the channel of a data source. -/
  | sends (source : String) (q : Request)
  /-- The replies under an id are waited for. -/
  | awaits (id : CorrelationId) (timeout : Duration)
  /-- The call has failed. -/
  | fails (e : ExecutionError)

/-- What an event of a call is to its surroundings. -/
def DispatchEvent.deed? : DispatchEvent Request → Option ForwardDeed
  | .acquired _ source => some (.acquires source)
  | .sent _ source q => some (.sends source q)
  | .requested _ _ | .released _ _ => none

/-- The wait that a task of the collector is for, if it is for one. -/
def RegistryTask.awaits? : RegistryTask ReplyFrame → Option ForwardDeed
  | .await id timeout _ => some (.awaits id timeout)
  | .offer _ _ | .unregister _ _ => none

/-- The failure of a call that has failed. -/
def ForwardStage.failure? : ForwardStage → Option ExecutionError
  | .leaving _ _ (.result (.error e)) | .removing _ _ (.result (.error e))
  | .ended (.result (.error e)) => some e
  | _ => none

namespace ForwardEngine

/-- The failure of a call that has failed with a step. -/
def fails? (s : ForwardEngine) (call : Nat) : Option ForwardDeed :=
  ((s.stage? call).bind (·.failure?)).map .fails

/-- What a call has done to its surroundings by its own action, which has led from one state to
another. -/
def ownDeed? (call : Nat) (s s' : ForwardEngine) : ForwardAction → Option ForwardDeed
  | .acquired _ none | .send _ => s'.events.getLast?.bind DispatchEvent.deed?
  | .register k =>
    match s.registration? (.register k) with
    | some r => (s'.collector.registry.wait? r.number).map fun w => .registers r.id w.expected
    | none => s'.fails? call
  | .await _ => s'.collector.tasks.getLast?.bind RegistryTask.awaits?
  | .acquired _ (some _) | .sent _ _ | .settle _ => s'.fails? call
  | _ => none

/-- What a call has done to its surroundings by an action. -/
def deed? (call : Nat) (s s' : ForwardEngine) (a : ForwardAction) : Option ForwardDeed :=
  if a.call? = some call then ownDeed? call s s' a else none

/-- What a call has done to its surroundings along a run, in order. -/
def story (call : Nat) (s : ForwardEngine) (actions : List ForwardAction) : List ForwardDeed :=
  emitted step (fun s a => (s.step a).bind fun s' => deed? call s s' a) s actions

/-- A story with one step more. -/
theorem story_concat {call : Nat} {s u u' : ForwardEngine} {as : List ForwardAction}
    {a : ForwardAction} (hrun : s.run as = some u) (hstep : u.step a = some u') :
    s.story call (as ++ [a]) = s.story call as ++ (deed? call u u' a).toList := by
  rw [story, emitted_concat hrun, hstep]
  rfl

end ForwardEngine

/-! ### The script -/

/-- The request for the unit at a place in dispatch order. -/
def scriptedRequest (settings : ForwardSettings) (keys : Bool) (id : CorrelationId) (place : Nat)
    (sql : String) : Request :=
  { correlationId := id
    unitIndex := UInt64.ofNat place
    sql
    returnGeneratedKeys := keys
    captureMetadata := place == 0
    fetchSize := settings.fetchSize }

section

variable (settings : ForwardSettings) (route : Route) (keys : Bool) (id : CorrelationId)

/-- A channel for each data source, in the order of first appearance. -/
def scriptedChannels : List ForwardDeed := route.dataSourceNames.map .acquires

/-- All units in dispatch order, each into the channel of its own data source. -/
def scriptedSends : List ForwardDeed :=
  (route.dispatchUnits keys).zipIdx.map fun u =>
    .sends u.1.dataSource (scriptedRequest settings keys id u.2 u.1.sql)

/-- What a call does that does not fail: it acquires its channels, registers its wait for as many
replies as there are units, sends all units and begins to wait. -/
def forwardScript : List ForwardDeed :=
  scriptedChannels route ++ .registers id route.size :: scriptedSends settings route keys id ++
    [.awaits id settings.timeout]

end

/-- A call has followed the script for an id, until it stopped or failed. -/
def Follows (settings : ForwardSettings) (route : Route) (keys : Bool)
    (story : List ForwardDeed) : Prop :=
  ∃ id, story <+: forwardScript settings route keys id ∨
    ∃ done e, done <+: forwardScript settings route keys id ∧ story = done ++ [.fails e]

/-- The unit that is sent: its data source and its statement. -/
def ForwardDeed.unit? : ForwardDeed → Option (String × String)
  | .sends source q => some (source, q.sql)
  | .acquires _ | .registers _ _ | .awaits _ _ | .fails _ => none

/-- What a call that stands at a stage has done. -/
inductive OnScript (settings : ForwardSettings) (route : Route) (keys : Bool) :
    ForwardStage → List ForwardDeed → Prop where
  | acquiring {a} (hof : a.Of (route.groups keys)) :
    OnScript settings route keys (.acquiring a)
      (a.held.map fun g => .acquires g.dataSource)
  | registering {id held} :
    OnScript settings route keys (.registering id held) (scriptedChannels route)
  /-- A unit whose send is under way has been sent, and is still among those that are left. -/
  | sending {id held done rest underWay} (hunits : route.dispatchUnits keys = done ++ rest)
    (hway : underWay = true → rest ≠ []) :
    OnScript settings route keys (.sending id held rest underWay)
      (scriptedChannels route ++ .registers id route.size ::
        (scriptedSends settings route keys id).take (done.length + underWay.toNat))
  | sent {id sources} :
    OnScript settings route keys (.sent id sources)
      (scriptedChannels route ++ .registers id route.size :: scriptedSends settings route keys id)
  | waiting {id sources task} :
    OnScript settings route keys (.waiting id sources task) (forwardScript settings route keys id)
  | leaving {stage story} (hstage : stage.leavesAs?.isSome)
    (hstory : Follows settings route keys story) : OnScript settings route keys stage story

variable {settings : ForwardSettings} {route : Route} {keys : Bool} {id : CorrelationId}
  {stage stage' : ForwardStage} {story : List ForwardDeed}

theorem length_scriptedSends : (scriptedSends settings route keys id).length = route.size := by
  simp [scriptedSends]

/-- What is sent for the unit at a place. -/
theorem getElem?_scriptedSends {place : Nat} {u : PhysicalUnit}
    (h : (route.dispatchUnits keys)[place]? = some u) :
    (scriptedSends settings route keys id)[place]? =
      some (.sends u.dataSource (scriptedRequest settings keys id place u.sql)) := by
  simp [scriptedSends, h]

/-- The request that an engine makes for the unit at a place is the scripted one. -/
theorem ForwardEngine.request_eq {s : ForwardEngine} {place : Nat} {u : PhysicalUnit}
    (hset : s.settings = settings) (h : (route.dispatchUnits keys)[place]? = some u) :
    s.request id u = scriptedRequest settings keys id place u.sql := by
  rw [ForwardEngine.request, scriptedRequest, hset, route.index_eq_of_getElem? keys h,
    route.returnGeneratedKeys_of_mem keys (List.mem_of_getElem? h)]

theorem scriptedChannels_eq (route : Route) (keys : Bool) :
    scriptedChannels route = (route.groups keys).map fun g => .acquires g.dataSource := by
  rw [scriptedChannels, ← route.map_dataSource_groups keys, List.map_map]
  rfl

/-- The script behind the registration. -/
theorem forwardScript_eq : forwardScript settings route keys id = scriptedChannels route ++
    .registers id route.size :: (scriptedSends settings route keys id ++
      [.awaits id settings.timeout]) := by
  rw [forwardScript, List.append_assoc, List.cons_append]

/-- The script sends the units of the route in dispatch order. -/
theorem filterMap_unit?_forwardScript :
    (forwardScript settings route keys id).filterMap ForwardDeed.unit? =
      (route.dispatchUnits keys).map fun u => (u.dataSource, u.sql) := by
  have hchannels : (scriptedChannels route).filterMap ForwardDeed.unit? = [] := by
    simp [scriptedChannels, ForwardDeed.unit?]
  have hsends : (scriptedSends settings route keys id).filterMap ForwardDeed.unit? =
      (route.dispatchUnits keys).map fun u => (u.dataSource, u.sql) := by
    rw [scriptedSends, List.filterMap_map]
    conv_rhs => rw [← List.zipIdx_map_fst 0 (route.dispatchUnits keys), List.map_map]
    exact congrFun List.filterMap_eq_map _
  rw [forwardScript, List.filterMap_append, List.filterMap_append, hchannels,
    List.filterMap_cons_none rfl, hsends, List.nil_append]
  exact List.append_nil _

/-- Waiting comes last in the script. -/
theorem eq_forwardScript_of_awaits {done : List ForwardDeed} {id' : CorrelationId}
    {timeout : Duration} (h : done <+: forwardScript settings route keys id)
    (ha : .awaits id' timeout ∈ done) : done = forwardScript settings route keys id ∧ id' = id := by
  have hlast : ∀ {deed}, deed ∈ scriptedChannels route ++ .registers id route.size ::
      scriptedSends settings route keys id → deed ≠ .awaits id' timeout := by
    rintro deed hd rfl
    simp [scriptedChannels, scriptedSends] at hd
  rcases List.prefix_concat_iff.mp h with rfl | h
  · refine ⟨rfl, ?_⟩
    rcases List.mem_append.mp ha with ha | ha
    · exact absurd rfl (hlast ha)
    · exact (ForwardDeed.awaits.inj (List.mem_singleton.mp ha)).1
  · exact absurd rfl (hlast (h.subset ha))

/-- A call that has come to wait has sent every unit of its route, each once. -/
theorem Follows.reaches (h : Follows settings route keys story) {timeout : Duration}
    (ha : .awaits id timeout ∈ story) :
    forwardScript settings route keys id <+: story ∧
      (story.filterMap ForwardDeed.unit?).Perm
        (route.units.map fun u => (u.dataSource, u.sql)) := by
  have hperm := route.perm_dispatchUnits keys
  obtain ⟨id', h | ⟨done, e, h, rfl⟩⟩ := h
  · obtain ⟨rfl, rfl⟩ := eq_forwardScript_of_awaits h ha
    rw [filterMap_unit?_forwardScript]
    exact ⟨List.prefix_refl _, hperm⟩
  · have hdone : .awaits id timeout ∈ done := by simpa using ha
    obtain ⟨rfl, rfl⟩ := eq_forwardScript_of_awaits h hdone
    have hfails : [ForwardDeed.fails e].filterMap ForwardDeed.unit? = [] := rfl
    rw [List.filterMap_append, filterMap_unit?_forwardScript, hfails, List.append_nil]
    exact ⟨List.prefix_append _ _, hperm⟩

namespace OnScript

/-- A call that is not on its way out has neither failed nor left the script. -/
theorem prefix_or_leaving (h : OnScript settings route keys stage story) :
    (∃ id, story <+: forwardScript settings route keys id) ∨
      stage.leavesAs?.isSome ∧ Follows settings route keys story := by
  cases h with
  | @acquiring a hof =>
      refine .inl ⟨0, ?_⟩
      rw [forwardScript_eq, scriptedChannels_eq route keys, ← hof.groups_eq, List.map_append,
        List.append_assoc]
      exact List.prefix_append _ _
  | registering =>
      refine .inl ⟨0, ?_⟩
      rw [forwardScript_eq]
      exact List.prefix_append _ _
  | @sending id =>
      refine .inl ⟨id, ?_⟩
      rw [forwardScript_eq, List.prefix_append_right_inj, List.prefix_cons_inj]
      exact (List.take_prefix _ _).trans (List.prefix_append _ _)
  | @sent id =>
      refine .inl ⟨id, ?_⟩
      rw [forwardScript]
      exact List.prefix_append _ _
  | @waiting id => exact .inl ⟨id, List.prefix_refl _⟩
  | leaving hstage hstory => exact .inr ⟨hstage, hstory⟩

theorem follows (h : OnScript settings route keys stage story) :
    Follows settings route keys story := by
  rcases h.prefix_or_leaving with ⟨id, h⟩ | ⟨-, h⟩
  · exact ⟨id, .inl h⟩
  · exact h

/-- A call that acquires its channels has acquired those that it holds. -/
theorem of_acquiring {a : Acquisition} (h : OnScript settings route keys (.acquiring a) story) :
    a.Of (route.groups keys) ∧ story = a.held.map fun g => .acquires g.dataSource := by
  cases h with
  | acquiring hof => exact ⟨hof, rfl⟩
  | leaving hstage => cases hstage

/-- A call that sends its units has sent those in front of the ones that are left. -/
theorem of_sending {held : List UnitGroup} {rest : List PhysicalUnit} {underWay : Bool}
    (h : OnScript settings route keys (.sending id held rest underWay) story) :
    ∃ done, route.dispatchUnits keys = done ++ rest ∧
      story = scriptedChannels route ++ .registers id route.size ::
        (scriptedSends settings route keys id).take (done.length + underWay.toNat) := by
  cases h with
  | sending hunits => exact ⟨_, hunits, rfl⟩
  | leaving hstage => cases hstage

/-- A call that fails leaves the script where it is. -/
theorem fail (h : OnScript settings route keys stage story) (hstage : stage.leavesAs? = none)
    (hstage' : stage'.leavesAs?.isSome) {deed : Option ForwardDeed} {e : ExecutionError}
    (hdeed : deed = some (.fails e)) :
    OnScript settings route keys stage' (story ++ deed.toList) := by
  subst hdeed
  rcases h.prefix_or_leaving with ⟨id, h⟩ | ⟨hsome, -⟩
  · exact .leaving hstage' ⟨id, .inr ⟨story, e, h, rfl⟩⟩
  · simp [hstage] at hsome

/-- A call that is on its way out without a failure leaves the script where it is. -/
theorem stop (h : OnScript settings route keys stage story) (hstage' : stage'.leavesAs?.isSome)
    {deed : Option ForwardDeed} (hdeed : deed = none) :
    OnScript settings route keys stage' (story ++ deed.toList) := by
  subst hdeed
  rw [Option.toList_none, List.append_nil]
  exact .leaving hstage' h.follows

end OnScript

namespace ForwardEngine

variable {s s' : ForwardEngine} {call : Nat} {a : ForwardAction} {units : List PhysicalUnit}

/-- A call does nothing by the actions of others. -/
theorem deed?_others (h : a.call? ≠ some call) : deed? call s s' a = none := if_neg h

theorem fails?_eq (hc : s.calls[call]? = some ⟨units, stage⟩) :
    s.fails? call = stage.failure?.map .fails := by
  simp [fails?, stage?, hc]

theorem ownDeed?_acquired {source : String}
    (hevents : s'.events = s.events ++ [.acquired call source]) :
    ownDeed? call s s' (.acquired call none) = some (.acquires source) := by
  simp [ownDeed?, hevents, DispatchEvent.deed?]

theorem ownDeed?_send {u : PhysicalUnit}
    (hevents : s'.events = s.events ++ [.sent call u.dataSource (s.request id u)]) :
    ownDeed? call s s' (.send call) = some (.sends u.dataSource (s.request id u)) := by
  simp [ownDeed?, hevents, DispatchEvent.deed?]

/-- A call that finds its id free has registered its wait. -/
theorem ownDeed?_register {held : List UnitGroup}
    (hc : s.calls[call]? = some ⟨units, .registering id held⟩)
    (hfree : s.collector.registry.find? id = none)
    (hcol : s.collector.use? (.act (.register id units.length)) = some s'.collector) :
    ownDeed? call s s' (.register call) = some (.registers id units.length) := by
  have hreg : s.registration? (.register call) =
      some ⟨some call, id, s.collector.registry.waits.length⟩ := by
    simp [registration?, stage?, hc, hfree]
  have henter : { s.collector with registry := s.collector.registry.enter id units.length } =
      s'.collector := by
    simpa [Collector.use?, Collector.step, Registry.register_of_none hfree] using hcol
  simp [ownDeed?, hreg, ← henter, Registry.wait?_enter, Wait.new]

/-- A call that finds its id occupied has failed. -/
theorem ownDeed?_occupied {held : List UnitGroup} {number : Nat}
    (hc : s.calls[call]? = some ⟨units, .registering id held⟩)
    (hoccupied : s.collector.registry.find? id = some number) :
    ownDeed? call s s' (.register call) = s'.fails? call := by
  have hnone : s.registration? (.register call) = none := by
    simp [registration?, stage?, hc, hoccupied]
  rw [ownDeed?, hnone]

theorem ownDeed?_await {timeout : Duration}
    (hcol : s.collector.use? (.act (.await id timeout)) = some s'.collector) :
    ownDeed? call s s' (.await call) = some (.awaits id timeout) := by
  have hspawn : s.collector.spawn _ = s'.collector := Option.some.inj hcol
  simp [ownDeed?, ← hspawn, Collector.spawn, RegistryTask.awaits?]

end ForwardEngine

section

open ForwardEngine

variable {s s' : ForwardEngine} {call : Nat} {a : ForwardAction}

/-- **A step of a call takes it on in its script.** -/
theorem OnScript.step {use : RegistryUse} {events : List (DispatchEvent Request)}
    (h : OnScript settings route keys stage story) (hset : s.settings = settings)
    (hc : s.calls[call]? = some ⟨route.dispatchUnits keys, stage⟩)
    (hd : ForwardCall.Does s call (route.dispatchUnits keys) a stage use events stage')
    (hc' : s'.calls[call]? = some ⟨route.dispatchUnits keys, stage'⟩)
    (hcol : s.collector.use? use = some s'.collector) (hevents : s'.events = s.events ++ events) :
    OnScript settings route keys stage' (story ++ (deed? call s s' a).toList) := by
  rw [deed?, if_pos hd.call?_eq]
  have hfails := fails?_eq hc'
  cases hd with
  | asked ha =>
      obtain ⟨hof, rfl⟩ := h.of_acquiring
      have hstory : OnScript settings route keys _ _ := .acquiring (hof.ask ha)
      obtain ⟨-, -, rfl⟩ := Acquisition.ask?_eq_some.mp ha
      simpa [ownDeed?] using hstory
  | granted ha =>
      obtain ⟨hof, rfl⟩ := h.of_acquiring
      have hstory : OnScript settings route keys _ _ := .acquiring (hof.grant ha)
      obtain ⟨-, g, rest, -, rfl, rfl⟩ := Acquisition.grant?_eq_some.mp ha
      rw [ownDeed?_acquired hevents]
      simpa using hstory
  | refused => exact h.fail rfl rfl hfails
  | tookId hcomplete =>
      obtain ⟨hof, rfl⟩ := h.of_acquiring
      rw [hof.held_eq hcomplete, ← scriptedChannels_eq]
      simpa [ownDeed?] using OnScript.registering
  | registered hfree =>
      cases h with
      | registering =>
          rw [ownDeed?_register hc hfree hcol, route.length_dispatchUnits]
          exact .sending (List.nil_append _).symm (by simp)
      | leaving hstage => cases hstage
  | occupied hoccupied => exact h.fail rfl rfl ((ownDeed?_occupied hc hoccupied).trans hfails)
  | @sends id held u rest =>
      obtain ⟨done, hunits, rfl⟩ := h.of_sending
      have hu : (route.dispatchUnits keys)[done.length]? = some u := by simp [hunits]
      have htake : (scriptedSends settings route keys id).take (done.length + 1) =
          (scriptedSends settings route keys id).take done.length ++
            [.sends u.dataSource (scriptedRequest settings keys id done.length u.sql)] := by
        rw [List.take_add_one, getElem?_scriptedSends hu, Option.toList_some]
      have hstory : OnScript settings route keys (.sending id held (u :: rest) true) _ :=
        .sending hunits fun _ => List.cons_ne_nil u rest
      rw [Bool.toNat_true, htake] at hstory
      rw [ownDeed?_send hevents, request_eq hset hu]
      simpa using hstory
  | @sent id held u rest =>
      obtain ⟨done, hunits, rfl⟩ := h.of_sending
      rw [List.append_cons] at hunits
      have hstory : OnScript settings route keys (.sending id held rest false) _ :=
        .sending hunits (by simp)
      simpa [ownDeed?, hfails, ForwardStage.failure?] using hstory
  | sendFailed => exact h.fail rfl rfl hfails
  | @gaveBack id held =>
      obtain ⟨done, hunits, rfl⟩ := h.of_sending
      have hall : (scriptedSends settings route keys id).take (done.length + 0) =
          scriptedSends settings route keys id := by
        rw [List.append_nil] at hunits
        rw [Nat.add_zero, ← hunits, route.length_dispatchUnits, ← length_scriptedSends,
          List.take_length]
      rw [Bool.toNat_false, hall]
      simpa [ownDeed?] using OnScript.sent
  | awaits =>
      cases h with
      | sent =>
          rw [ownDeed?_await hcol, hset]
          exact .waiting
      | leaving hstage => cases hstage
  | @settled id sources task result hr =>
      generalize (respond id sources result).1 = r at hfails
      cases r with
      | ok _ => exact h.stop rfl hfails
      | error e => exact h.fail rfl rfl hfails
  | abandoned _ => exact h.stop rfl hfails
  | leaves | concluded _ | droppedAcquiring | droppedRegistering | droppedSending | droppedSent
  | droppedWaiting | cancels => exact h.stop rfl rfl

end

/-! ### Along a run -/

namespace ForwardEngine

variable {s s' : ForwardEngine} {call : Nat} {a : ForwardAction}

/-- A call that is on its way out does nothing more to its surroundings. -/
theorem quiet_of_leaving {units : List PhysicalUnit} {use : RegistryUse}
    {events : List (DispatchEvent Request)} (h : stage.leavesAs?.isSome)
    (hd : ForwardCall.Does s call units a stage use events stage')
    (hc' : s'.calls[call]? = some ⟨units, stage'⟩) :
    stage'.leavesAs?.isSome ∧ deed? call s s' a = none := by
  rw [deed?, if_pos hd.call?_eq]
  have hfails := fails?_eq hc'
  cases hd with
  | abandoned _ => exact ⟨rfl, hfails⟩
  | leaves | concluded _ => exact ⟨rfl, rfl⟩
  | asked _ | granted _ | refused | tookId _ | registered _ | occupied _ | sends | sent
  | sendFailed | gaveBack | awaits | settled _ | droppedAcquiring | droppedRegistering
  | droppedSending | droppedSent | droppedWaiting | cancels => cases h

/-- Behind the way out there is no story. -/
theorem story_of_leaving {units : List PhysicalUnit} (hc : s.calls[call]? = some ⟨units, stage⟩)
    (h : stage.leavesAs?.isSome) {actions : List ForwardAction} (hrun : s.run actions = some s') :
    s.story call actions = [] := by
  refine (foldlM_induction (P := fun as u => (∃ stage, u.calls[call]? = some ⟨units, stage⟩ ∧
    stage.leavesAs?.isSome) ∧ s.story call as = []) ⟨⟨stage, hc, h⟩, rfl⟩ ?_ hrun).2
  rintro as u a u' hrun' ⟨⟨stage, hc, h⟩, hstory⟩ hstep
  rw [story_concat hrun' hstep, hstory, List.nil_append]
  rcases (does_of_step hstep).1.call_cases hc with ⟨use, events, stage', hd, hc', -⟩ | ⟨hne, hc', -⟩
  · obtain ⟨h', hdeed⟩ := quiet_of_leaving h hd hc'
    exact ⟨⟨stage', hc', h'⟩, by rw [hdeed]; rfl⟩
  · exact ⟨⟨stage, hc', h⟩, by rw [deed?_others hne]; rfl⟩

namespace CallRun

variable {before after : List ForwardAction} {s₀ : ForwardEngine}

/-- A run in which a call begins stops in between. -/
theorem take (h : CallRun settings route keys call before after s₀ s) {as bs : List ForwardAction}
    (hafter : after = as ++ bs) :
    ∃ u, CallRun settings route keys call before as s₀ u ∧ u.run bs = some s := by
  have hrun := h.after_run
  rw [hafter, ← List.cons_append] at hrun
  obtain ⟨u, hu, hbs⟩ := foldlM_append_eq_some.mp hrun
  exact ⟨u, ⟨h.before_run, h.number, hu⟩, hbs⟩

/-- **A call follows its script**, whatever else happens. -/
theorem onScript (h : CallRun settings route keys call before after s₀ s) (hne : route.units ≠ []) :
    ∃ stage, s.calls[call]? = some ⟨route.dispatchUnits keys, stage⟩ ∧
      OnScript settings route keys stage (s₀.story call (.begin route keys :: after)) := by
  obtain ⟨s₁, hbegin, hrun⟩ := foldlM_cons_eq_some.mp h.after_run
  refine foldlM_induction (P := fun as u =>
    ∃ stage, u.calls[call]? = some ⟨route.dispatchUnits keys, stage⟩ ∧
      OnScript settings route keys stage (s₀.story call (.begin route keys :: as))) ?_ ?_ hrun
  · have hstory : s₀.story call [.begin route keys] = [] := by
      have hnil : s₀.run [] = some s₀ := rfl
      exact story_concat hnil hbegin
    cases hbegin
    refine ⟨.acquiring (.ofGroups (route.groups keys)), ?_, ?_⟩
    · rw [h.number, List.getElem?_concat_length, firstCall,
        if_neg (mt List.isEmpty_iff.mp hne)]
    · rw [hstory]
      exact .acquiring (Acquisition.of_ofGroups _)
  · rintro as u a u' hrun' ⟨stage, hc, hon⟩ hstep
    have hrun₀ : s₀.run (.begin route keys :: as) = some u :=
      foldlM_cons_eq_some.mpr ⟨s₁, hbegin, hrun'⟩
    have hset : u.settings = settings :=
      (settings_of_run hrun₀).trans (settings_of_run h.before_run)
    rw [← List.cons_append, story_concat hrun₀ hstep]
    rcases (does_of_step hstep).1.call_cases hc with
      ⟨use, events, stage', hd, hc', hcol, hevents⟩ | ⟨hne, hc', -⟩
    · exact ⟨stage', hc', hon.step hset hc hd hc' hcol hevents⟩
    · rw [deed?_others hne, Option.toList_none, List.append_nil]
      exact ⟨stage, hc', hon⟩

/-- Nothing is sent behind a send that has failed. -/
theorem story_of_sendFailed (h : CallRun settings route keys call before after s₀ s)
    (hne : route.units ≠ []) {as bs : List ForwardAction} {e : ExecutionError}
    (hafter : after = as ++ .sent call (some e) :: bs) :
    s₀.story call (.begin route keys :: after) =
      s₀.story call (.begin route keys :: as) ++ [.fails e] := by
  obtain ⟨u, hu, hbs⟩ := h.take hafter
  obtain ⟨u', hstep, hrest⟩ := foldlM_cons_eq_some.mp hbs
  obtain ⟨stage, hc, -⟩ := hu.onScript hne
  rcases (does_of_step hstep).1.call_cases hc with
    ⟨use, events, stage', hd, hc', -⟩ | ⟨hother, -⟩
  · cases hd with
    | @sendFailed id held v rest _ =>
        have hdeed : deed? call u u' (.sent call (some e)) = some (.fails e) := by
          rw [deed?, if_pos (by rfl)]
          exact fails?_eq hc'
        have hrun : s₀.run (.begin route keys :: as ++ [.sent call (some e)]) = some u' :=
          foldlM_concat_eq_some.mpr ⟨u, hu.after_run, hstep⟩
        have hquiet : emitted step _ u' bs = [] := story_of_leaving hc' rfl hrest
        rw [hafter, List.append_cons, ← List.cons_append, ← List.cons_append, story,
          emitted_append hrun, hquiet, List.append_nil, ← story, story_concat hu.after_run hstep,
          hdeed, Option.toList_some]
  · exact absurd rfl hother

end CallRun

end ForwardEngine

end ScatterGather
