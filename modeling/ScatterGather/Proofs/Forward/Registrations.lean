import ScatterGather.Proofs.Forward.Channels
import ScatterGather.Proofs.Forward.Course

/-!
# The registrations of a call

Along a run, `ForwardEngine.registrations` lists who has registered which id, and the number of the
wait that came of it. A call registers one id at most, and from then on whatever it has in the
registry is under its guard (`ForwardEngine.Guarded`): an entry of the id is its own, its tasks work
for its own wait, and where it has ended there is no entry. Other calls and other tasks cannot break
this as long as nobody else registers the id (`RegistersAlone`), and the call for its part leaves
all other entries and waits as they are (`Guarding.elsewhere`).
-/

namespace ScatterGather

variable {α : Type}

/-! ### Tasks that work for one wait -/

namespace Collector

variable {c c' : Collector α} {a : CollectorAction α} {id : CorrelationId} {number task : Nat}

/-- A task works under an id, and for the wait of a number if for any. -/
def WorksFor (c : Collector α) (id : CorrelationId) (number task : Nat) : Prop :=
  ∃ t, c.tasks[task]? = some t ∧ t.id = id ∧ ∀ m, t.number? = some m → m = number

/-- What a task does leaves the entries of other ids and the other waits alone. -/
theorem WorksFor.elsewhere (hw : c.WorksFor id number task) (h : c.Moves a c')
    (ha : a.task? = some task) :
    (∀ id', id' ≠ id → c'.registry.find? id' = c.registry.find? id') ∧
      ∀ m, m ≠ number → c'.registry.wait? m = c.registry.wait? m := by
  obtain ⟨t, ht, rfl, hn⟩ := hw
  obtain ⟨hentries, hwaits⟩ := h.own_step ha ht
  refine ⟨fun id' hid => ?_, fun m hm => hwaits m fun hn' => hm (hn m hn')⟩
  rw [hentries, if_neg fun hown => hid hown.1]

/-- A task goes on working for its wait, while there is no other entry of its id. -/
theorem WorksFor.move (hw : c.WorksFor id number task) (h : c.Moves a c')
    (hentry : ∀ m, c.registry.find? id = some m → m = number) : c'.WorksFor id number task := by
  obtain ⟨t, ht, rfl, hn⟩ := hw
  obtain ⟨t', ht', rfl | ⟨-, hm⟩ | ⟨-, hi⟩⟩ := h.task_cases ht
  · exact ⟨t', ht', rfl, hn⟩
  · exact ⟨t', ht', hm.id_eq, fun m hm' => (hm.number?_eq hm').elim (hn m) (hentry m)⟩
  · cases hi with
    | expired => exact ⟨_, ht', rfl, hn⟩
    | cancelled | forgotten => exact ⟨_, ht', rfl, nofun⟩

/-- The removal of an id has not begun, or has taken its entry away. -/
def Removes (c : Collector α) (id : CorrelationId) (task : Nat) : Prop :=
  ∃ stage, c.tasks[task]? = some (.unregister id stage) ∧
    (stage = .removing ∨ c.registry.find? id = none)

/-- A removal goes its way, unless the id is registered again. -/
theorem Removes.move (hr : c.Removes id task) (h : c.Moves a c')
    (ha : c.registers? a ≠ some id) : c'.Removes id task := by
  obtain ⟨stage, ht, hst⟩ := hr
  have hfree : c.registry.find? id = none → c'.registry.find? id = none := by
    intro hnone
    refine Option.eq_none_iff_forall_ne_some.mpr fun m hm => ?_
    rcases h.find?_cases hm with hm | ⟨hreg, -⟩
    · rw [hnone] at hm
      cases hm
    · exact ha hreg
  obtain ⟨t', ht', rfl | ⟨-, hm⟩ | ⟨-, hi⟩⟩ := h.task_cases ht
  · exact ⟨stage, ht', hst.imp_right hfree⟩
  · generalize hr : c'.registry = r', c.event? a = event at hm
    cases hm with
    | unregistered _ | notRegistered _ =>
        refine ⟨_, ht', .inr ?_⟩
        rw [hr, Registry.find?_remove, if_pos rfl]
    | unregisterShut =>
        refine ⟨_, ht', .inr (hfree ?_)⟩
        rcases hst with hst | hst
        · cases hst
        · exact hst
  · cases hi

end Collector

/-! ### Who registers what -/

/-- A registration: the call that makes it, unless somebody else does, its id, and the number of
its wait. -/
structure Registration where
  call? : Option Nat
  id : CorrelationId
  number : Nat

/-- After a call has registered an id, nobody else registers it. -/
def RegistersAlone (call : Nat) (rs : List Registration) : Prop :=
  rs.Pairwise fun r r' => r.call? = some call → r'.call? ≠ some call → r'.id ≠ r.id

/-- What a step registers that uses a collector. -/
def Collector.registersBy? (c : Collector ReplyFrame) : RegistryUse → Option CorrelationId
  | .act a => c.registers? a
  | .nothing | .takeId => none

namespace ForwardEngine

/-- The registration that an action makes. -/
def registration? (s : ForwardEngine) : ForwardAction → Option Registration
  | .register call => do
    match ← s.stage? call with
    | .registering id _ =>
      if s.collector.registry.find? id = none then
        some ⟨some call, id, s.collector.registry.waits.length⟩
      else none
    | _ => none
  | .collector a =>
    (s.collector.registers? a).map fun id => ⟨none, id, s.collector.registry.waits.length⟩
  | _ => none

/-- The registrations along a run, in order. -/
def registrations (s : ForwardEngine) (actions : List ForwardAction) : List Registration :=
  emitted step registration? s actions

variable {s s' : ForwardEngine} {a : ForwardAction} {call : Nat} {rs : List Registration}

/-- A call makes its own registrations. -/
theorem call?_of_registration {r : Registration} (h : s.registration? a = some r)
    (hr : r.call? = some call) : a.call? = some call := by
  cases a with
  | register k =>
      obtain ⟨stage, -, h⟩ := Option.bind_eq_some_iff.mp h
      split at h
      · split at h <;> cases h
        exact hr
      · cases h
  | collector ca =>
      obtain ⟨id, -, rfl⟩ := Option.map_eq_some_iff.mp h
      cases hr
  | _ => cases h

end ForwardEngine

/-- A step of a call registers its id or nothing. -/
theorem ForwardCall.Does.registration? {s : ForwardEngine} {call : Nat} {c : ForwardCall}
    {a : ForwardAction} {stage : ForwardStage} {use : RegistryUse}
    {events : List (DispatchEvent Request)} (hc : s.calls[call]? = some c)
    (h : ForwardCall.Does s call c.units a c.stage use events stage) :
    (∃ id held, c.stage = .registering id held ∧ s.collector.registry.find? id = none ∧
      use = .act (.register id c.units.length) ∧ stage = .sending id held c.units false ∧
      s.registration? a = some ⟨some call, id, s.collector.registry.waits.length⟩) ∨
    s.collector.registersBy? use = none ∧ s.registration? a = none ∧
      ∀ id n, use ≠ .act (.register id n) := by
  have hst : s.stage? call = some c.stage := ForwardEngine.stage?_eq_some.mpr ⟨c, hc, rfl⟩
  generalize c.stage = before at h hst
  cases h with
  | registered hfree =>
      exact .inl ⟨_, _, rfl, hfree, rfl, rfl, by simp [ForwardEngine.registration?, hst, hfree]⟩
  | occupied hf => exact .inr ⟨rfl, by simp [ForwardEngine.registration?, hst, hf], nofun⟩
  | _ => exact .inr ⟨rfl, rfl, nofun⟩

/-- What a step of an engine registers is what it uses its collector for. -/
theorem ForwardEngine.Does.registersBy? {s s' : ForwardEngine} {a : ForwardAction}
    (h : s.Does a s') :
    ∃ use, s.collector.use? use = some s'.collector ∧
      s.collector.registersBy? use = (s.registration? a).map (·.id) := by
  cases h with
  | begin ha _ hcol _ =>
      subst ha
      exact ⟨.nothing, congrArg some hcol.symm, rfl⟩
  | @collector ca ha _ hcol _ =>
      subst ha
      refine ⟨.act ca, hcol, ?_⟩
      simp [Collector.registersBy?, ForwardEngine.registration?, Function.comp_def]
  | @call k c use _ _ hc hd _ hcol _ =>
      refine ⟨use, hcol, ?_⟩
      rcases hd.registration? hc with ⟨id, held, -, hfree, rfl, -, hr⟩ | ⟨hnone, hr, -⟩
      · simp [Collector.registersBy?, Collector.registers?, hfree, hr]
      · rw [hnone, hr]
        rfl

/-! ### Under the guard of a call -/

/-- The task of the collector by which a call goes on. -/
def ForwardStage.task? : ForwardStage → Option Nat
  | .waiting _ _ task | .abandoning _ task | .removing task _ _ => some task
  | _ => none

/-- What is true of the registration of a call where it stands. -/
def ForwardStage.Guards (c : Collector ReplyFrame) (id : CorrelationId) (number : Nat) :
    ForwardStage → Prop
  | .acquiring _ | .registering _ _ => False
  | .sending id' _ _ _ | .sent id' _ | .leaving id' _ _ => id' = id
  | .waiting id' _ task => id' = id ∧ c.WorksFor id number task
  | .abandoning id' task => id' = id ∧ c.WorksFor id number task ∧
    ∃ timeout stage, c.tasks[task]? = some (.await id timeout stage) ∧ stage.isGivenUp = true
  | .removing task _ _ => c.WorksFor id number task ∧ c.Removes id task
  | .ended _ => c.registry.find? id = none

/-- Where a call stands that has registered nothing, or has ended. -/
def ForwardStage.isBare : ForwardStage → Bool
  | .acquiring _ | .registering _ _ | .ended _ => true
  | _ => false

/-- Only a call that has registered its id has a task. -/
theorem ForwardStage.task?_of_isBare (stage : ForwardStage) (h : stage.isBare = true) :
    stage.task? = none := by
  cases stage with
  | acquiring _ | registering _ _ | ended _ => rfl
  | _ => cases h

/-- The entry of an id, if there is one, is that of a call, which stands by it. -/
structure ForwardEngine.Guarded (id : CorrelationId) (number call : Nat) (s : ForwardEngine) :
    Prop where
  entry : ∀ m, s.collector.registry.find? id = some m → m = number
  stage : ∃ c, s.calls[call]? = some c ∧ c.stage.Guards s.collector id number

section

variable {c c' : Collector ReplyFrame} {id : CorrelationId} {number : Nat} {use : RegistryUse}

/-- What a call does with a collector is a move of it. -/
theorem Collector.moves_of_use {a : CollectorAction ReplyFrame} (hu : c.use? (.act a) = some c') :
    c.Moves a c' :=
  moves_of_step hu

/-- An id has no other entry unless it is registered again. -/
theorem Collector.entry_of_use (hu : c.use? use = some c') (hreg : c.registersBy? use ≠ some id)
    {m : Nat} (hm : c'.registry.find? id = some m) : c.registry.find? id = some m := by
  rcases Collector.of_use? hu with ⟨-, rfl⟩ | ⟨-, rfl⟩ | ⟨a, rfl, hmove⟩
  · exact hm
  · exact hm
  · rcases hmove.find?_cases hm with hm | ⟨hr, -⟩
    · exact hm
    · exact absurd hr hreg

/-- A call that stands still keeps its registration under its guard, unless its id is registered
again. -/
theorem ForwardStage.Guards.kept {stage : ForwardStage} (h : stage.Guards c id number)
    (hu : c.use? use = some c') (hreg : c.registersBy? use ≠ some id)
    (hentry : ∀ m, c.registry.find? id = some m → m = number) : stage.Guards c' id number := by
  have hfree : c.registry.find? id = none → c'.registry.find? id = none := fun hnone =>
    Option.eq_none_iff_forall_ne_some.mpr fun m hm => by
      rw [Collector.entry_of_use hu hreg hm] at hnone
      cases hnone
  rcases Collector.of_use? hu with ⟨-, rfl⟩ | ⟨-, rfl⟩ | ⟨a, rfl, hm⟩
  · exact h
  · cases stage <;> exact h
  · cases stage with
    | acquiring _ | registering _ _ | sending _ _ _ _ | sent _ _ | leaving _ _ _ => exact h
    | waiting _ _ _ => exact ⟨h.1, h.2.move hm hentry⟩
    | abandoning _ _ =>
        obtain ⟨hid, hw, timeout, stage, ht, hs⟩ := h
        obtain ⟨stage', ht', hs'⟩ := hm.isGivenUp ht hs
        exact ⟨hid, hw.move hm hentry, timeout, stage', ht', hs'⟩
    | removing _ _ _ => exact ⟨h.1.move hm hentry, h.2.move hm hreg⟩
    | ended _ => exact hfree h

end

/-- A task that is given up while it waits is an await that leaves. -/
theorem Collector.Moves.givenUp_of_cancel {c c' : Collector α} {task : Nat}
    (h : c.Moves (.cancel task) c') :
    ∃ id timeout stage stage', c.tasks[task]? = some (.await id timeout stage) ∧
      c'.tasks[task]? = some (.await id timeout stage') ∧ stage'.isGivenUp = true := by
  cases h with
  | cancelled ht _ | forgotten ht =>
      exact ⟨_, _, _, _, ht, List.getElem?_set_self (List.getElem?_eq_some_iff.mp ht).1, rfl⟩

namespace ForwardCall.Does

variable {s : ForwardEngine} {call : Nat} {units : List PhysicalUnit} {a : ForwardAction}
  {stage stage' : ForwardStage} {use : RegistryUse} {events : List (DispatchEvent Request)}
  {c' : Collector ReplyFrame} {id : CorrelationId} {number : Nat}

/-- **What a call does keeps its registration under its guard**, whichever way it takes. -/
theorem guards (hd : ForwardCall.Does s call units a stage use events stage')
    (h : stage.Guards s.collector id number) (hu : s.collector.use? use = some c')
    (hentry : ∀ m, s.collector.registry.find? id = some m → m = number) :
    stage'.Guards c' id number := by
  cases hd with
  | asked _ | granted _ | refused | tookId _ | registered _ | occupied _ | droppedAcquiring
  | droppedRegistering => exact h.elim
  | sends | sent | sendFailed | gaveBack | droppedSending | droppedSent => exact h
  | settled _ | abandoned _ | droppedWaiting => exact h.1
  | awaits =>
      cases hu
      exact ⟨h, _, List.getElem?_concat_length, h, nofun⟩
  | leaves =>
      obtain rfl : _ = id := h
      cases hu
      exact ⟨⟨_, List.getElem?_concat_length, rfl, nofun⟩, _, List.getElem?_concat_length, .inl rfl⟩
  | concluded hover =>
      obtain ⟨-, stage, ht, hst⟩ := h
      cases hu
      rcases hst with rfl | hst
      · simp [ForwardEngine.taskOver, ht] at hover
      · exact hst
  | cancels =>
      obtain ⟨hid, hw⟩ := h
      have hm := Collector.moves_of_use hu
      obtain ⟨id', timeout, _, stage', ht, ht', hs'⟩ := hm.givenUp_of_cancel
      have ⟨t, ht₁, hid', _⟩ := hw
      obtain rfl := Option.some.inj (ht.symm.trans ht₁)
      obtain rfl : id' = _ := hid'
      exact ⟨hid, hw.move hm hentry, timeout, stage', ht', hs'⟩

end ForwardCall.Does

/-- What a call does leaves the entries of other ids and the other waits alone. -/
theorem ForwardCall.Does.elsewhere {s : ForwardEngine} {call : Nat} {units : List PhysicalUnit}
    {a : ForwardAction} {stage stage' : ForwardStage} {use : RegistryUse}
    {events : List (DispatchEvent Request)} {c' : Collector ReplyFrame} {id : CorrelationId}
    {number : Nat} (hd : ForwardCall.Does s call units a stage use events stage')
    (h : stage.Guards s.collector id number) (hu : s.collector.use? use = some c') :
    (∀ id', id' ≠ id → c'.registry.find? id' = s.collector.registry.find? id') ∧
      ∀ m, m ≠ number → c'.registry.wait? m = s.collector.registry.wait? m := by
  cases hd with
  | cancels => exact h.2.elsewhere (Collector.moves_of_use hu) rfl
  | tookId _ | registered _ => exact h.elim
  | _ =>
      cases hu
      exact ⟨fun _ _ => rfl, fun _ _ => rfl⟩

/-- What a call does that registers nothing leaves everything alone, as long as it has registered
nothing. -/
theorem ForwardCall.Does.untouched {s : ForwardEngine} {call : Nat} {units : List PhysicalUnit}
    {a : ForwardAction} {stage stage' : ForwardStage} {use : RegistryUse}
    {events : List (DispatchEvent Request)} {c' : Collector ReplyFrame}
    (hd : ForwardCall.Does s call units a stage use events stage') (h : stage.isBare = true)
    (hu : s.collector.use? use = some c') (hne : ∀ id n, use ≠ .act (.register id n)) :
    (∀ id, c'.registry.find? id = s.collector.registry.find? id) ∧
      ∀ m, c'.registry.wait? m = s.collector.registry.wait? m := by
  cases hd with
  | registered _ => exact absurd rfl (hne _ _)
  | asked _ | granted _ | refused | tookId _ | occupied _ | droppedAcquiring
  | droppedRegistering =>
      cases hu
      exact ⟨fun _ => rfl, fun _ => rfl⟩
  | _ => cases h

/-- A registration adds an entry of its id and a wait of its number. -/
theorem Collector.registered_elsewhere {c c' : Collector α} {id : CorrelationId} {expected : Nat}
    (hfree : c.registry.find? id = none) (hs : c.step (.register id expected) = some c') :
    (∀ id', id' ≠ id → c'.registry.find? id' = c.registry.find? id') ∧
      ∀ m, m ≠ c.registry.waits.length → c'.registry.wait? m = c.registry.wait? m := by
  have henter : c'.registry = c.registry.enter id expected := by
    cases hs
    exact congrArg Prod.snd (Registry.register_of_none hfree expected)
  rw [henter]
  constructor
  · intro id' h
    rw [Registry.find?_enter hfree, if_neg h]
  · intro m h
    rw [Registry.wait?_enter, if_neg h]

/-! ### Along a run -/

/-- A call has registered nothing so far, or its one registration is under its guard. -/
inductive Guarding (call : Nat) (rs : List Registration) (s : ForwardEngine) : Prop where
  | unregistered {c} (hc : s.calls[call]? = some c) (hst : c.stage.isBare = true)
    (hnone : ∀ r ∈ rs, r.call? ≠ some call)
  | registered {r} (hr : r ∈ rs) (hcall : r.call? = some call)
    (honly : ∀ r' ∈ rs, r'.call? = some call → r' = r) (hg : s.Guarded r.id r.number call)

namespace Guarding

variable {s s' : ForwardEngine} {a : ForwardAction} {call : Nat} {rs : List Registration}

/-- A call that begins has registered nothing. -/
theorem begin {route : Route} {keys : Bool}
    (hc : s.calls[call]? = some (ForwardEngine.firstCall route keys)) : Guarding call [] s := by
  refine .unregistered hc ?_ (by simp)
  rw [ForwardEngine.firstCall]
  dsimp only
  split <;> rfl

/-- A registration that is not made by a call. -/
theorem not_own (hne : a.call? ≠ some call) : ∀ r ∈ (s.registration? a).toList,
    r.call? ≠ some call := by
  intro r hr hcall
  exact hne (ForwardEngine.call?_of_registration (Option.mem_toList.mp hr) hcall)

/-- **Every step keeps the registration of a call under its guard**, as long as nobody else
registers its id. -/
theorem step (h : Guarding call rs s) (hd : s.Does a s')
    (halone : RegistersAlone call (rs ++ (s.registration? a).toList)) :
    Guarding call (rs ++ (s.registration? a).toList) s' := by
  cases h with
  | @unregistered c hc hst hnone =>
      rcases hd.call_cases hc with ⟨use, events, stage, hown, hc', hcol, -⟩ | ⟨hne, hc', -⟩
      · rcases hown.registration? hc with ⟨id, held, hreg, hfree, rfl, rfl, hr⟩ | ⟨-, hr, huse⟩
        · rw [hr]
          refine .registered (List.mem_append_right _ (List.mem_singleton_self _)) rfl ?_ ⟨?_, ?_⟩
          · intro r' hr' hcall
            rcases List.mem_append.mp hr' with hr' | hr'
            · exact absurd hcall (hnone r' hr')
            · exact List.mem_singleton.mp hr'
          · intro m hm
            rcases (Collector.moves_of_use hcol).find?_cases hm with hm | ⟨-, hm⟩
            · rw [hfree] at hm
              cases hm
            · exact hm
          · exact ⟨_, hc', rfl⟩
        · rw [hr, Option.toList_none, List.append_nil]
          refine .unregistered hc' ?_ hnone
          generalize c.stage = before at hown hst
          cases hown with
          | asked _ | granted _ | tookId _ | refused | occupied _ | droppedAcquiring
          | droppedRegistering => rfl
          | registered _ => exact absurd rfl (huse _ _)
          | _ => cases hst
      · refine .unregistered hc' hst fun r hr => ?_
        rcases List.mem_append.mp hr with hr | hr
        · exact hnone r hr
        · exact not_own hne r hr
  | @registered r hr hcall honly hg =>
      obtain ⟨hentry, c, hc, hguards⟩ := hg
      rcases hd.call_cases hc with ⟨use, events, stage, hown, hc', hcol, -⟩ | ⟨hne, hc', -⟩
      · rcases hown.registration? hc with ⟨id, held, hreg, -⟩ | ⟨hby, hnone, -⟩
        · rw [hreg] at hguards
          exact hguards.elim
        · rw [hnone, Option.toList_none, List.append_nil]
          have hby' : s.collector.registersBy? use ≠ some r.id := by rw [hby]; nofun
          exact .registered hr hcall honly
            ⟨fun m hm => hentry m (Collector.entry_of_use hcol hby' hm), _, hc',
              hown.guards hguards hcol hentry⟩
      · obtain ⟨use, hcol, hby⟩ := hd.registersBy?
        have hby' : s.collector.registersBy? use ≠ some r.id := by
          rw [hby]
          intro heq
          obtain ⟨r', hr', hid⟩ := Option.map_eq_some_iff.mp heq
          have hin : r' ∈ (s.registration? a).toList := Option.mem_toList.mpr hr'
          exact (List.pairwise_append.mp halone).2.2 r hr r' hin hcall (not_own hne r' hin) hid
        refine .registered (List.mem_append_left _ hr) hcall ?_
          ⟨fun m hm => hentry m (Collector.entry_of_use hcol hby' hm), c, hc',
            hguards.kept hcol hby' hentry⟩
        intro r' hr' hcall'
        rcases List.mem_append.mp hr' with hr' | hr'
        · exact honly r' hr' hcall'
        · exact absurd hcall' (not_own hne r' hr')

end Guarding

/-! ### The other statements -/

/-- A step that a call takes, itself or by its task in the collector. -/
def ForwardEngine.IsOwnStep (s : ForwardEngine) (call : Nat) (a : ForwardAction) : Prop :=
  a.call? = some call ∨ ∃ ca stage task, a = .collector ca ∧ s.stage? call = some stage ∧
    stage.task? = some task ∧ ca.task? = some task

/-- A task by which a call goes on works for the wait of the call. -/
theorem ForwardStage.Guards.worksFor {stage : ForwardStage} {c : Collector ReplyFrame}
    {id : CorrelationId} {number task : Nat} (h : stage.Guards c id number)
    (ht : stage.task? = some task) : c.WorksFor id number task := by
  cases stage <;> cases ht
  · exact h.2
  · exact h.2.1
  · exact h.1

/-- A step that a call takes in its collector is that of its task. -/
theorem ForwardEngine.Guarded.elsewhere {s s' : ForwardEngine} {a : ForwardAction}
    {id : CorrelationId} {number call : Nat} (h : s.Guarded id number call) (hd : s.Does a s')
    (hown : s.IsOwnStep call a) :
    (∀ id', id' ≠ id → s'.collector.registry.find? id' = s.collector.registry.find? id') ∧
      ∀ m, m ≠ number → s'.collector.registry.wait? m = s.collector.registry.wait? m := by
  obtain ⟨-, c, hc, hguards⟩ := h
  rcases hown with ha | ⟨ca, stage, task, rfl, hst, ht, hca⟩
  · rcases hd.call_cases hc with ⟨use, events, stage, hd, -, hcol, -⟩ | ⟨hne, -⟩
    · exact hd.elsewhere hguards hcol
    · exact absurd ha hne
  · obtain ⟨c', hc', rfl⟩ := ForwardEngine.stage?_eq_some.mp hst
    obtain rfl := Option.some.inj (hc.symm.trans hc')
    cases hd with
    | collector ha _ hcol _ =>
        cases ha
        exact (hguards.worksFor ht).elsewhere (Collector.moves_of_step hcol) hca
    | call _ hd _ _ _ => exact absurd hd.call?_eq nofun
    | begin ha _ _ _ => cases ha

/-- Nothing in the registry changes but what a call has registered. -/
structure LeavesOthers (call : Nat) (rs : List Registration) (s s' : ForwardEngine) : Prop where
  entries : ∀ id, (∀ r ∈ rs, r.call? = some call → r.id ≠ id) →
    s'.collector.registry.find? id = s.collector.registry.find? id
  waits : ∀ m, (∀ r ∈ rs, r.call? = some call → r.number ≠ m) →
    s'.collector.registry.wait? m = s.collector.registry.wait? m

/-- **What a call does leaves everything alone that it has not registered itself.** -/
theorem Guarding.leavesOthers {s s' : ForwardEngine} {a : ForwardAction} {call : Nat}
    {rs : List Registration} (h : Guarding call rs s) (hd : s.Does a s')
    (hown : s.IsOwnStep call a) :
    LeavesOthers call (rs ++ (s.registration? a).toList) s s' := by
  have hrest : ∀ r ∈ rs ++ (s.registration? a).toList, r.call? = some call →
      (∀ id, id ≠ r.id → s'.collector.registry.find? id = s.collector.registry.find? id) ∧
        (∀ m, m ≠ r.number → s'.collector.registry.wait? m = s.collector.registry.wait? m) →
      LeavesOthers call (rs ++ (s.registration? a).toList) s s' := fun r hr hcall helse =>
    ⟨fun id h => helse.1 id (h r hr hcall).symm, fun m h => helse.2 m (h r hr hcall).symm⟩
  cases h with
  | @registered r hr hcall _ hg =>
      exact hrest r (List.mem_append_left _ hr) hcall (hg.elsewhere hd hown)
  | @unregistered c hc hst _ =>
      rcases hown with ha | ⟨ca, stage, task, -, hst', ht, -⟩
      · rcases hd.call_cases hc with ⟨use, events, stage, hd, -, hcol, -⟩ | ⟨hne, -⟩
        · rcases hd.registration? hc with ⟨id, held, -, hfree, rfl, -, hr⟩ | ⟨-, -, huse⟩
          · exact hrest ⟨some call, id, s.collector.registry.waits.length⟩
              (by simp [hr]) rfl (Collector.registered_elsewhere hfree hcol)
          · obtain ⟨hfind, hwait⟩ := hd.untouched hst hcol huse
            exact ⟨fun id _ => hfind id, fun m _ => hwait m⟩
        · exact absurd ha hne
      · obtain ⟨c', hc', rfl⟩ := ForwardEngine.stage?_eq_some.mp hst'
        obtain rfl := Option.some.inj (hc.symm.trans hc')
        rw [c.stage.task?_of_isBare hst] at ht
        cases ht

end ScatterGather
