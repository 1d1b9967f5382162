import ScatterGather.Forward.Engine
import ScatterGather.Proofs.Collector.Owners

/-!
# What a forwarding engine does in one step

A step of a `ForwardEngine` is the beginning of a call, a step of one call, or something that
happens in the collector (`ForwardEngine.Does`). A step of a call changes the stage of that call
alone, uses the registry in one way at most (`RegistryUse`), and is told with the events that it
records. Everything that is proved about forwarding goes through `ForwardEngine.does_of_step` and
never opens the step again.
-/

namespace ScatterGather

/-! ### Using the registry -/

/-- What a step of a call does with the registry. -/
inductive RegistryUse where
  | nothing
  /-- It takes a correlation id. -/
  | takeId
  | act (a : CollectorAction ReplyFrame)

/-- What has become of a collector that is used. -/
def Collector.use? (c : Collector ReplyFrame) : RegistryUse → Option (Collector ReplyFrame)
  | .nothing => some c
  | .takeId => some { c with registry := c.registry.takeId.2 }
  | .act a => c.step a

/-! ### The steps of a call with their events -/

/-- The call that takes a step. -/
def ForwardAction.call? : ForwardAction → Option Nat
  | .ask call | .acquired call _ | .takeId call | .register call | .send call | .sent call _
  | .giveBack call | .await call | .settle call | .leave call | .conclude call | .drop call =>
    some call
  | .begin _ _ | .collector _ => none

/-- The next step of a call: the action, the stage before it, what it does with the registry, the
events that it records, and the stage behind it. -/
inductive ForwardCall.Does (s : ForwardEngine) (call : Nat) (units : List PhysicalUnit) :
    ForwardAction → ForwardStage → RegistryUse → List (DispatchEvent Request) → ForwardStage →
      Prop where
  | asked {a a' source} (h : a.ask? = some (source, a')) :
    Does s call units (.ask call) (.acquiring a) .nothing [.requested call source] (.acquiring a')
  | granted {a a' source} (h : a.grant? = some (source, a')) :
    Does s call units (.acquired call none) (.acquiring a) .nothing [.acquired call source]
      (.acquiring a')
  | refused {a e} :
    Does s call units (.acquired call (some e)) (.acquiring a) .nothing
      (Acquisition.releases call a.held) (.ended (.result (.error e)))
  | tookId {a} (h : a.complete = true) :
    Does s call units (.takeId call) (.acquiring a) .takeId []
      (.registering s.collector.registry.nextId a.held)
  | registered {id held} (h : s.collector.registry.find? id = none) :
    Does s call units (.register call) (.registering id held) (.act (.register id units.length)) []
      (.sending id held units false)
  | occupied {id held n e} (h : s.collector.registry.find? id = some n) :
    Does s call units (.register call) (.registering id held) .nothing
      (Acquisition.releases call held) (.ended (.result (.error e)))
  | sends {id held u rest} :
    Does s call units (.send call) (.sending id held (u :: rest) false) .nothing
      [.sent call u.dataSource (s.request id u)] (.sending id held (u :: rest) true)
  | sent {id held u rest} :
    Does s call units (.sent call none) (.sending id held (u :: rest) true) .nothing []
      (.sending id held rest false)
  | sendFailed {id held u rest e} :
    Does s call units (.sent call (some e)) (.sending id held (u :: rest) true) .nothing []
      (.leaving id held (.result (.error e)))
  | gaveBack {id held} :
    Does s call units (.giveBack call) (.sending id held [] false) .nothing
      (Acquisition.releases call held) (.sent id (units.map (·.dataSource)))
  | awaits {id sources} :
    Does s call units (.await call) (.sent id sources) (.act (.await id s.settings.timeout)) []
      (.waiting id sources s.collector.tasks.length)
  | settled {id sources task result} (h : s.awaited? task = some result) :
    Does s call units (.settle call) (.waiting id sources task) .nothing []
      (.leaving id [] (.result (ForwardEngine.respond id sources result).1))
  | abandoned {id task} (h : s.taskOver task = true) :
    Does s call units (.settle call) (.abandoning id task) .nothing [] (.leaving id [] .dropped)
  | leaves {id held how} :
    Does s call units (.leave call) (.leaving id held how) (.act (.unregister id)) []
      (.removing s.collector.tasks.length held how)
  | concluded {task held how} (h : s.taskOver task = true) :
    Does s call units (.conclude call) (.removing task held how) .nothing
      (Acquisition.releases call held) (.ended how)
  | droppedAcquiring {a} :
    Does s call units (.drop call) (.acquiring a) .nothing (Acquisition.releases call a.held)
      (.ended .dropped)
  | droppedRegistering {id held} :
    Does s call units (.drop call) (.registering id held) .nothing
      (Acquisition.releases call held) (.ended .dropped)
  | droppedSending {id held rest underWay} :
    Does s call units (.drop call) (.sending id held rest underWay) .nothing []
      (.leaving id held .dropped)
  | droppedSent {id sources} :
    Does s call units (.drop call) (.sent id sources) .nothing [] (.leaving id [] .dropped)
  | droppedWaiting {id sources task} :
    Does s call units (.drop call) (.waiting id sources task) .nothing [] (.leaving id [] .dropped)
  | cancels {id sources task} :
    Does s call units (.drop call) (.waiting id sources task) (.act (.cancel task)) []
      (.abandoning id task)

namespace ForwardEngine

/-- What an action does to an engine, with the events that it records. -/
inductive Does (s : ForwardEngine) (a : ForwardAction) (s' : ForwardEngine) : Prop where
  | begin {route keys} (ha : a = .begin route keys)
    (hcalls : s'.calls = s.calls ++ [firstCall route keys]) (hcol : s'.collector = s.collector)
    (hevents : s'.events = s.events)
  | call {call c use events stage} (hc : s.calls[call]? = some c)
    (hd : ForwardCall.Does s call c.units a c.stage use events stage)
    (hcalls : s'.calls = s.calls.set call { c with stage })
    (hcol : s.collector.use? use = some s'.collector) (hevents : s'.events = s.events ++ events)
  | collector {ca} (ha : a = .collector ca) (hcalls : s'.calls = s.calls)
    (hcol : s.collector.step ca = some s'.collector) (hevents : s'.events = s.events)

variable {s s' t : ForwardEngine} {a : ForwardAction} {call : Nat} {c : ForwardCall}

/-- A stage is that of a call. -/
theorem stage?_eq_some {stage : ForwardStage} :
    s.stage? call = some stage ↔ ∃ c, s.calls[call]? = some c ∧ c.stage = stage := by
  simp [stage?]

theorem calls_setStage (hc : s.calls[call]? = some c) (stage : ForwardStage) :
    (s.setStage call stage).calls = s.calls.set call { c with stage } := by
  apply List.ext_getElem?
  intro i
  rw [setStage, List.getElem?_modify, List.getElem?_set]
  by_cases h : call = i
  · subst h
    rw [hc, if_pos rfl, if_pos (List.getElem?_eq_some_iff.mp hc).1]
    simp
  · simp [h]

/-- A call that is put at a stage has done something. -/
theorem does_setStage {use : RegistryUse} {events : List (DispatchEvent Request)}
    {before stage : ForwardStage} (hc : s.calls[call]? = some c) (hst : c.stage = before)
    (hd : ForwardCall.Does s call c.units a before use events stage) (ht : t.calls = s.calls)
    (hset : t.settings = s.settings) (hcol : s.collector.use? use = some t.collector)
    (hevents : t.events = s.events ++ events) :
    s.Does a (t.setStage call stage) ∧ (t.setStage call stage).settings = s.settings :=
  ⟨.call hc (hst ▸ hd) (by rw [calls_setStage (ht ▸ hc), ht]) hcol hevents, hset⟩

/-- A call that is given up does what its stage asks for. -/
theorem does_of_drop (h : s.step (.drop call) = some s') :
    s.Does (.drop call) s' ∧ s'.settings = s.settings := by
  obtain ⟨stage, hst, h⟩ := Option.bind_eq_some_iff.mp h
  obtain ⟨c, hc, rfl⟩ := stage?_eq_some.mp hst
  unfold drop? at h
  split at h
  · next hst =>
      cases h
      exact does_setStage hc hst .droppedAcquiring rfl rfl rfl rfl
  · next hst =>
      cases h
      exact does_setStage hc hst .droppedRegistering rfl rfl rfl rfl
  · next hst =>
      cases h
      exact does_setStage hc hst .droppedSending rfl rfl rfl (List.append_nil _).symm
  · next hst =>
      cases h
      exact does_setStage hc hst .droppedSent rfl rfl rfl (List.append_nil _).symm
  · next hst =>
      split at h
      · cases h
        exact does_setStage hc hst .droppedWaiting rfl rfl rfl (List.append_nil _).symm
      · obtain ⟨t, ht, h⟩ := Option.bind_eq_some_iff.mp h
        obtain ⟨col, hcol, ht⟩ := Option.bind_eq_some_iff.mp ht
        cases ht
        cases h
        exact does_setStage hc hst .cancels rfl rfl hcol (List.append_nil _).symm
  · cases h

/-- **Every step of an engine** is the beginning of a call, a step of one, or something in the
collector, and leaves its settings as they are. -/
theorem does_of_step (h : s.step a = some s') : s.Does a s' ∧ s'.settings = s.settings := by
  cases a with
  | begin route keys =>
      cases h
      exact ⟨.begin rfl rfl rfl rfl, rfl⟩
  | collector ca =>
      obtain ⟨c, hc, h⟩ := Option.bind_eq_some_iff.mp h
      cases h
      exact ⟨.collector rfl rfl hc rfl, rfl⟩
  | ask call =>
      obtain ⟨stage, hst, h⟩ := Option.bind_eq_some_iff.mp h
      obtain ⟨c, hc, rfl⟩ := stage?_eq_some.mp hst
      split at h
      · next a hca =>
          obtain ⟨⟨source, a'⟩, ha, h⟩ := Option.bind_eq_some_iff.mp h
          cases h
          exact does_setStage hc hca (.asked ha) rfl rfl rfl rfl
      · cases h
  | acquired call refusal =>
      obtain ⟨stage, hst, h⟩ := Option.bind_eq_some_iff.mp h
      obtain ⟨c, hc, rfl⟩ := stage?_eq_some.mp hst
      split at h
      · next a hca =>
          obtain ⟨⟨source, a'⟩, ha, h⟩ := Option.bind_eq_some_iff.mp h
          cases refusal with
          | none =>
              cases h
              exact does_setStage hc hca (.granted ha) rfl rfl rfl rfl
          | some e =>
              cases h
              exact does_setStage hc hca .refused rfl rfl rfl rfl
      · cases h
  | takeId call =>
      obtain ⟨stage, hst, h⟩ := Option.bind_eq_some_iff.mp h
      obtain ⟨c, hc, rfl⟩ := stage?_eq_some.mp hst
      split at h
      · next a hca =>
          split at h
          · next hcomplete =>
              cases h
              exact does_setStage hc hca (.tookId hcomplete) rfl rfl rfl (List.append_nil _).symm
          · cases h
      · cases h
  | register call =>
      obtain ⟨c, hc, h⟩ := Option.bind_eq_some_iff.mp h
      split at h
      · next id held hst =>
          cases hf : s.collector.registry.find? id with
          | none =>
              rw [Registry.register_of_none hf] at h
              cases h
              refine does_setStage hc hst (.registered hf) rfl rfl ?_ (List.append_nil _).symm
              simp [Collector.use?, Collector.step, Registry.register_of_none hf]
          | some n =>
              rw [Registry.register_of_some hf] at h
              cases h
              exact does_setStage hc hst (.occupied hf) rfl rfl rfl rfl
      · cases h
  | send call =>
      obtain ⟨stage, hst, h⟩ := Option.bind_eq_some_iff.mp h
      obtain ⟨c, hc, rfl⟩ := stage?_eq_some.mp hst
      split at h
      · next hst =>
          cases h
          exact does_setStage hc hst .sends rfl rfl rfl rfl
      · cases h
  | sent call failure =>
      obtain ⟨stage, hst, h⟩ := Option.bind_eq_some_iff.mp h
      obtain ⟨c, hc, rfl⟩ := stage?_eq_some.mp hst
      split at h
      · next hst =>
          cases failure with
          | none =>
              cases h
              exact does_setStage hc hst .sent rfl rfl rfl (List.append_nil _).symm
          | some e =>
              cases h
              exact does_setStage hc hst .sendFailed rfl rfl rfl (List.append_nil _).symm
      · cases h
  | giveBack call =>
      obtain ⟨c, hc, h⟩ := Option.bind_eq_some_iff.mp h
      split at h
      · next hst =>
          cases h
          exact does_setStage hc hst .gaveBack rfl rfl rfl rfl
      · cases h
  | await call =>
      obtain ⟨stage, hst, h⟩ := Option.bind_eq_some_iff.mp h
      obtain ⟨c, hc, rfl⟩ := stage?_eq_some.mp hst
      split at h
      · next hst =>
          cases h
          exact does_setStage hc hst .awaits rfl rfl rfl (List.append_nil _).symm
      · cases h
  | settle call =>
      obtain ⟨stage, hst, h⟩ := Option.bind_eq_some_iff.mp h
      obtain ⟨c, hc, rfl⟩ := stage?_eq_some.mp hst
      split at h
      · next hst =>
          obtain ⟨result, hr, h⟩ := Option.bind_eq_some_iff.mp h
          cases h
          exact does_setStage hc hst (.settled hr) rfl rfl rfl (List.append_nil _).symm
      · next hst =>
          split at h
          · next hover =>
              cases h
              exact does_setStage hc hst (.abandoned hover) rfl rfl rfl (List.append_nil _).symm
          · cases h
      · cases h
  | leave call =>
      obtain ⟨stage, hst, h⟩ := Option.bind_eq_some_iff.mp h
      obtain ⟨c, hc, rfl⟩ := stage?_eq_some.mp hst
      split at h
      · next hst =>
          cases h
          exact does_setStage hc hst .leaves rfl rfl rfl (List.append_nil _).symm
      · cases h
  | conclude call =>
      obtain ⟨stage, hst, h⟩ := Option.bind_eq_some_iff.mp h
      obtain ⟨c, hc, rfl⟩ := stage?_eq_some.mp hst
      split at h
      · next hst =>
          split at h
          · next hover =>
              cases h
              exact does_setStage hc hst (.concluded hover) rfl rfl rfl rfl
          · cases h
      · cases h
  | drop call => exact does_of_drop h

end ForwardEngine

end ScatterGather
