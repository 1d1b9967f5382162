import ScatterGather.Proofs.Forward.Steps

/-!
# What a forwarding engine can do in one step

The steps of an engine without their events (`ForwardEngine.Moves`): this is what matters where the
course of a call and its use of the registry are followed, and where it is all one at which stage a
call stood that is given up.
-/

namespace ScatterGather

/-! ### The moves of a call -/

/-- The correlation id of a call, from the moment it has taken it until it removes it. -/
def ForwardStage.id? : ForwardStage → Option CorrelationId
  | .registering id _ | .sending id _ _ _ | .sent id _ | .waiting id _ _ | .abandoning id _
  | .leaving id _ _ => some id
  | .acquiring _ | .removing _ _ _ | .ended _ => none

/-- The next step of a call: the action, the stage before it, what it does with the registry, and
the stage behind it. -/
inductive ForwardCall.Moves (s : ForwardEngine) (call : Nat) (units : List PhysicalUnit) :
    ForwardAction → ForwardStage → RegistryUse → ForwardStage → Prop where
  | asked {a a' source} (h : a.ask? = some (source, a')) :
    Moves s call units (.ask call) (.acquiring a) .nothing (.acquiring a')
  | granted {a a' source} (h : a.grant? = some (source, a')) :
    Moves s call units (.acquired call none) (.acquiring a) .nothing (.acquiring a')
  | refused {a e} :
    Moves s call units (.acquired call (some e)) (.acquiring a) .nothing
      (.ended (.result (.error e)))
  | tookId {a} (h : a.complete = true) :
    Moves s call units (.takeId call) (.acquiring a) .takeId
      (.registering s.collector.registry.nextId a.held)
  | registered {id held} (h : s.collector.registry.find? id = none) :
    Moves s call units (.register call) (.registering id held) (.act (.register id units.length))
      (.sending id held units false)
  | occupied {id held n e} (h : s.collector.registry.find? id = some n) :
    Moves s call units (.register call) (.registering id held) .nothing
      (.ended (.result (.error e)))
  | sends {id held u rest} :
    Moves s call units (.send call) (.sending id held (u :: rest) false) .nothing
      (.sending id held (u :: rest) true)
  | sent {id held u rest} :
    Moves s call units (.sent call none) (.sending id held (u :: rest) true) .nothing
      (.sending id held rest false)
  | sendFailed {id held u rest e} :
    Moves s call units (.sent call (some e)) (.sending id held (u :: rest) true) .nothing
      (.leaving id held (.result (.error e)))
  | gaveBack {id held} :
    Moves s call units (.giveBack call) (.sending id held [] false) .nothing
      (.sent id (units.map (·.dataSource)))
  | awaits {id sources} :
    Moves s call units (.await call) (.sent id sources) (.act (.await id s.settings.timeout))
      (.waiting id sources s.collector.tasks.length)
  | settled {id sources task result} (h : s.awaited? task = some result) :
    Moves s call units (.settle call) (.waiting id sources task) .nothing
      (.leaving id [] (.result (ForwardEngine.respond id sources result).1))
  | abandoned {id task} (h : s.taskOver task = true) :
    Moves s call units (.settle call) (.abandoning id task) .nothing (.leaving id [] .dropped)
  | leaves {id held how} :
    Moves s call units (.leave call) (.leaving id held how) (.act (.unregister id))
      (.removing s.collector.tasks.length held how)
  | concluded {task held how} (h : s.taskOver task = true) :
    Moves s call units (.conclude call) (.removing task held how) .nothing (.ended how)
  | dropped {stage id held} (h : stage.id? = some id) :
    Moves s call units (.drop call) stage .nothing (.leaving id held .dropped)
  | droppedEarly {stage} : Moves s call units (.drop call) stage .nothing (.ended .dropped)
  | cancels {id sources task} :
    Moves s call units (.drop call) (.waiting id sources task) (.act (.cancel task))
      (.abandoning id task)

/-! ### The moves of an engine -/

/-- What a call does is one of its moves. -/
theorem ForwardCall.Does.move {s : ForwardEngine} {call : Nat} {units : List PhysicalUnit}
    {a : ForwardAction} {stage stage' : ForwardStage} {use : RegistryUse}
    {events : List (DispatchEvent Request)}
    (h : ForwardCall.Does s call units a stage use events stage') :
    ForwardCall.Moves s call units a stage use stage' := by
  cases h with
  | asked h => exact .asked h
  | granted h => exact .granted h
  | refused => exact .refused
  | tookId h => exact .tookId h
  | registered h => exact .registered h
  | occupied h => exact .occupied h
  | sends => exact .sends
  | sent => exact .sent
  | sendFailed => exact .sendFailed
  | gaveBack => exact .gaveBack
  | awaits => exact .awaits
  | settled h => exact .settled h
  | abandoned h => exact .abandoned h
  | leaves => exact .leaves
  | concluded h => exact .concluded h
  | droppedAcquiring | droppedRegistering => exact .droppedEarly
  | droppedSending | droppedSent | droppedWaiting => exact .dropped rfl
  | cancels => exact .cancels

namespace ForwardEngine

/-- What an action does to an engine. -/
inductive Moves (s : ForwardEngine) (a : ForwardAction) (s' : ForwardEngine) : Prop where
  | begin {route keys} (ha : a = .begin route keys)
    (hcalls : s'.calls = s.calls ++ [firstCall route keys]) (hcol : s'.collector = s.collector)
  | call {call c use stage} (hc : s.calls[call]? = some c)
    (hm : ForwardCall.Moves s call c.units a c.stage use stage)
    (hcalls : s'.calls = s.calls.set call { c with stage })
    (hcol : s.collector.use? use = some s'.collector)
  | collector {ca} (ha : a = .collector ca) (hcalls : s'.calls = s.calls)
    (hcol : s.collector.step ca = some s'.collector)

variable {s s' : ForwardEngine} {a : ForwardAction}

/-- **Every step of an engine is one of its moves**, and leaves its settings as they are. -/
theorem moves_of_step (h : s.step a = some s') : s.Moves a s' ∧ s'.settings = s.settings := by
  obtain ⟨hd, hset⟩ := does_of_step h
  refine ⟨?_, hset⟩
  cases hd with
  | begin ha hcalls hcol _ => exact .begin ha hcalls hcol
  | call hc hd hcalls hcol _ => exact .call hc hd.move hcalls hcol
  | collector ha hcalls hcol _ => exact .collector ha hcalls hcol

end ForwardEngine

end ScatterGather
