import Mathlib.Data.List.Nodup
import ScatterGather.Proofs.Collector.Standing
import ScatterGather.Proofs.Forward.Moves

/-!
# Correlation ids belong to one call

The calls of an engine take their correlation ids one after another, so as long as no more than
`UInt64.size` are taken no two calls have the same one (`Tickets.eq_of_holds`). An id that a call
has not registered yet is unused: nothing was ever registered under it, and no task waits for it or
removes it, unless somebody else has used it on the collector directly (`Tickets.unused`).
-/

namespace ScatterGather

/-- The call that an action gives a correlation id to. -/
def ForwardAction.takes? : ForwardAction → Option Nat
  | .takeId call => some call
  | _ => none

/-- The id that somebody other than a call registers, waits for or removes. -/
def ForwardAction.foreign? : ForwardAction → Option CorrelationId
  | .collector a => a.claims?
  | _ => none

/-- The id of the `i`-th ticket. -/
def ticketId (i : Nat) : CorrelationId := UInt64.ofNat (1 + i)

theorem ticketId_succ (i : Nat) : ticketId i + 1 = ticketId (i + 1) := by
  rw [ticketId, ticketId, ← Nat.add_assoc, UInt64.ofNat_add (1 + i)]
  rfl

/-- As long as there are enough of them, ids tell tickets apart. -/
theorem ticketId_injOn {i j : Nat} (hi : i < UInt64.size) (hj : j < UInt64.size)
    (h : ticketId i = ticketId j) : i = j := by
  have := congrArg UInt64.toNat h
  simp only [ticketId, UInt64.toNat_ofNat'] at this
  unfold UInt64.size at hi hj
  omega

/-! ### What a move of a call does to ids -/

namespace ForwardCall.Moves

variable {s : ForwardEngine} {call : Nat} {units : List PhysicalUnit} {a : ForwardAction}
  {stage stage' : ForwardStage} {use : RegistryUse}

/-- A call that acquires takes its id, and only then is about to register it. -/
theorem takes (h : ForwardCall.Moves s call units a stage use stage') :
    (a.takes? = some call ∧ use = .takeId ∧ (∃ acq, stage = .acquiring acq) ∧
        ∃ held, stage' = .registering s.collector.registry.nextId held) ∨
      a.takes? = none ∧ use ≠ .takeId ∧ (∀ id held, stage' ≠ .registering id held) ∧
        (∀ id, stage'.id? = some id → stage.id? = some id) ∧
        ∀ acq, stage' = .acquiring acq → ∃ acq', stage = .acquiring acq' := by
  cases h with
  | tookId _ => exact .inl ⟨rfl, rfl, ⟨_, rfl⟩, _, rfl⟩
  | dropped h =>
      refine .inr ⟨rfl, nofun, nofun, ?_, nofun⟩
      intro id hid
      cases hid
      exact h
  | asked _ | granted _ =>
      exact .inr ⟨rfl, nofun, nofun, nofun, fun acq h => ⟨_, rfl⟩⟩
  | refused | occupied _ | concluded _ | leaves | droppedEarly =>
      exact .inr ⟨rfl, nofun, nofun, nofun, nofun⟩
  | registered _ | sends | sent | sendFailed | gaveBack | awaits | settled _ | abandoned _
  | cancels =>
      exact .inr ⟨rfl, nofun, nofun, fun id hid => hid, nofun⟩

/-- No move of a call counts as somebody else's. -/
theorem foreign?_eq_none (h : ForwardCall.Moves s call units a stage use stage') :
    a.foreign? = none := by
  cases h <;> rfl

/-- What a call does with the registry it does under its own id. -/
theorem claims (h : ForwardCall.Moves s call units a stage use stage') {ca} (hu : use = .act ca) :
    (∀ id, ca.claims? = some id → stage.id? = some id) ∧
      ∀ task, ca.task? = some task → ∃ id sources, stage = .waiting id sources task := by
  cases h with
  | registered _ | awaits | leaves =>
      cases hu
      exact ⟨fun _ h => h, nofun⟩
  | cancels =>
      cases hu
      refine ⟨nofun, ?_⟩
      intro task h
      cases h
      exact ⟨_, _, rfl⟩
  | _ => cases hu

/-- A call waits by a task that it has just begun. -/
theorem waiting (h : ForwardCall.Moves s call units a stage use stage') {id : CorrelationId}
    {sources : List String} {task : Nat} (hs : stage' = .waiting id sources task) :
    use = .act (.await id s.settings.timeout) ∧ task = s.collector.tasks.length := by
  cases h with
  | awaits =>
      cases hs
      exact ⟨rfl, rfl⟩
  | _ => cases hs

end ForwardCall.Moves

/-- What a call does with the registry begins or ends a task, and decides nothing about replies. -/
theorem ForwardCall.Moves.event?_eq_none {s : ForwardEngine} {call : Nat}
    {units : List PhysicalUnit} {a : ForwardAction} {stage stage' : ForwardStage}
    {ca : CollectorAction ReplyFrame} (h : ForwardCall.Moves s call units a stage (.act ca) stage')
    (c : Collector ReplyFrame) : c.event? ca = none := by
  cases h <;> rfl

/-! ### The ids that a collector has seen -/

/-- Every id under which anything was ever registered, and every id that a task waits for or
removes, is one of these. -/
def Collector.Uses (c : Collector ReplyFrame) (P : CorrelationId → Prop) : Prop :=
  (∃ owners events, Owned owners events c ∧ ∀ id ∈ owners, P id) ∧
    ∀ {task : Nat} {t : RegistryTask ReplyFrame}, c.tasks[task]? = some t → t.isOffer = false →
      P t.id

namespace Collector

variable {c c' : Collector ReplyFrame} {use : RegistryUse} {P Q : CorrelationId → Prop}

/-- Using a collector is a move of it, unless only an id is taken. -/
theorem of_use? (h : c.use? use = some c') :
    use = .nothing ∧ c' = c ∨
      use = .takeId ∧ c' = { c with registry := c.registry.takeId.2 } ∨
      ∃ a, use = .act a ∧ c.Moves a c' := by
  cases use with
  | nothing => exact .inl ⟨rfl, (Option.some.inj h).symm⟩
  | takeId => exact .inr (.inl ⟨rfl, (Option.some.inj h).symm⟩)
  | act a => exact .inr (.inr ⟨a, rfl, moves_of_step h⟩)

theorem Uses.mono (h : c.Uses P) (hPQ : ∀ id, P id → Q id) : c.Uses Q := by
  obtain ⟨⟨owners, events, hO, hown⟩, hserve⟩ := h
  exact ⟨⟨owners, events, hO, fun id hid => hPQ id (hown id hid)⟩,
    fun ht ho => hPQ _ (hserve ht ho)⟩

/-- A move uses at most one id more. -/
theorem Uses.move (h : c.Uses P) {a : CollectorAction ReplyFrame} (hm : c.Moves a c')
    (ha : ∀ id, a.claims? = some id → P id) : c'.Uses P := by
  obtain ⟨⟨owners, events, hO, hown⟩, hserve⟩ := h
  refine ⟨⟨_, _, hO.move hm, ?_⟩, ?_⟩
  · intro id hid
    rcases List.mem_append.mp hid with hid | hid
    · exact hown id hid
    · refine ha id ?_
      cases a with
      | register id' expected =>
          rw [Option.mem_toList, registers?] at hid
          split at hid <;> cases hid
          rfl
      | _ => cases hid
  · intro task t' ht' ho
    rcases hm.task_origin ht' ho with ⟨t, ht, ho', hid⟩ | hcl
    · exact hid ▸ hserve ht ho'
    · exact ha _ hcl

/-- What a call does with a collector uses at most the ids that it claims. -/
theorem Uses.used (h : c.Uses P) (hu : c.use? use = some c')
    (ha : ∀ a, use = .act a → ∀ id, a.claims? = some id → P id) : c'.Uses P := by
  rcases of_use? hu with ⟨-, rfl⟩ | ⟨-, rfl⟩ | ⟨a, rfl, hm⟩
  · exact h
  · obtain ⟨⟨owners, events, hO, hown⟩, hserve⟩ := h
    exact ⟨⟨owners, events, hO.takeId, hown⟩, hserve⟩
  · exact h.move hm (ha a rfl)

/-- A collector that is used keeps its tasks. -/
theorem task_kept_of_use (hu : c.use? use = some c') {task : Nat} {t : RegistryTask ReplyFrame}
    (ht : c.tasks[task]? = some t) :
    ∃ t', c'.tasks[task]? = some t' ∧ t'.isOffer = t.isOffer ∧ t'.id = t.id := by
  rcases of_use? hu with ⟨-, rfl⟩ | ⟨-, rfl⟩ | ⟨a, -, hm⟩
  · exact ⟨t, ht, rfl, rfl⟩
  · exact ⟨t, ht, rfl, rfl⟩
  · exact hm.task_kept ht

/-- Only a call that takes an id changes the next one. -/
theorem nextId_of_use (hu : c.use? use = some c') (hne : use ≠ .takeId) :
    c'.registry.nextId = c.registry.nextId := by
  rcases of_use? hu with ⟨-, rfl⟩ | ⟨rfl, -⟩ | ⟨a, -, hm⟩
  · rfl
  · exact absurd rfl hne
  · exact hm.nextId_eq

end Collector

/-! ### The tickets of an engine -/

/-- The id was given to a call that has gone on to register it. -/
def Issued (taken : List Nat) (s : ForwardEngine) (id : CorrelationId) : Prop :=
  ∃ (i call : Nat) (c : ForwardCall), taken[i]? = some call ∧ id = ticketId i ∧
    s.calls[call]? = some c ∧ ∀ id held, c.stage ≠ .registering id held

/-- The calls that have taken an id, in order, hold the ids of their places in this order; ids that
are in use are theirs, or somebody else's. -/
structure Tickets (taken : List Nat) (foreign : List CorrelationId) (s : ForwardEngine) : Prop where
  nextId : s.collector.registry.nextId = ticketId taken.length
  nodup : taken.Nodup
  lt : ∀ call ∈ taken, call < s.calls.length
  acquiring : ∀ {call : Nat} {c : ForwardCall} {acq : Acquisition}, s.calls[call]? = some c →
    c.stage = .acquiring acq → call ∉ taken
  holder : ∀ {call : Nat} {c : ForwardCall} {id : CorrelationId}, s.calls[call]? = some c →
    c.stage.id? = some id → ∃ i : Nat, taken[i]? = some call ∧ id = ticketId i
  waiting : ∀ {call task : Nat} {c : ForwardCall} {id : CorrelationId} {sources : List String},
    s.calls[call]? = some c → c.stage = .waiting id sources task →
      ∃ t, s.collector.tasks[task]? = some t ∧ t.isOffer = false ∧ t.id = id
  uses : s.collector.Uses fun id => id ∈ foreign ∨ Issued taken s id

namespace Tickets

variable {taken : List Nat} {foreign : List CorrelationId} {s s' : ForwardEngine}
  {a : ForwardAction}

/-- Nothing has been taken from a new engine. -/
theorem new (settings : ForwardSettings) : Tickets [] [] (ForwardEngine.new settings) where
  nextId := rfl
  nodup := List.nodup_nil
  lt := by simp
  acquiring h := by simp [ForwardEngine.new] at h
  holder h := by simp [ForwardEngine.new] at h
  waiting h := by simp [ForwardEngine.new] at h
  uses := ⟨⟨[], [], .empty, by simp⟩, fun h => by simp [ForwardEngine.new, Collector.empty] at h⟩

/-- A call that begins has no ticket. -/
theorem begin (h : Tickets taken foreign s) {route : Route} {keys : Bool}
    (hcalls : s'.calls = s.calls ++ [ForwardEngine.firstCall route keys])
    (hcol : s'.collector = s.collector) : Tickets taken foreign s' := by
  have hcase : ∀ {call : Nat} {c : ForwardCall}, s'.calls[call]? = some c →
      s.calls[call]? = some c ∨
        call = s.calls.length ∧ ((∃ e, c.stage = .ended e) ∨ ∃ acq, c.stage = .acquiring acq) := by
    intro call c hc
    rw [hcalls] at hc
    rcases getElem?_concat_eq_some hc with hold | ⟨hcall, rfl⟩
    · exact .inl hold
    · refine .inr ⟨hcall, ?_⟩
      rw [ForwardEngine.firstCall]
      split
      · exact .inl ⟨_, rfl⟩
      · exact .inr ⟨_, rfl⟩
  have hissued : ∀ id, id ∈ foreign ∨ Issued taken s id → id ∈ foreign ∨ Issued taken s' id := by
    rintro id (hf | ⟨i, call, c, hi, rfl, hc, hne⟩)
    · exact .inl hf
    · refine .inr ⟨i, call, c, hi, rfl, ?_, hne⟩
      exact hcalls ▸ getElem?_append_of_eq_some hc
  refine ⟨hcol ▸ h.nextId, h.nodup, ?_, ?_, ?_, ?_, hcol ▸ h.uses.mono hissued⟩
  · intro call hin
    rw [hcalls, List.length_append]
    exact Nat.lt_add_right _ (h.lt call hin)
  · intro call c acq hc hst
    rcases hcase hc with hold | ⟨rfl, -⟩
    · exact h.acquiring hold hst
    · exact fun hin => Nat.lt_irrefl _ (h.lt _ hin)
  · intro call c id hc hst
    rcases hcase hc with hold | ⟨-, ⟨e, he⟩ | ⟨acq, he⟩⟩
    · exact h.holder hold hst
    · simp [he, ForwardStage.id?] at hst
    · simp [he, ForwardStage.id?] at hst
  · intro call task c id sources hc hst
    rcases hcase hc with hold | ⟨-, ⟨e, he⟩ | ⟨acq, he⟩⟩
    · exact hcol ▸ h.waiting hold hst
    · simp [he] at hst
    · simp [he] at hst

/-- What happens in the collector leaves the tickets of calls alone. -/
theorem collector (h : Tickets taken foreign s) {ca : CollectorAction ReplyFrame}
    (hcalls : s'.calls = s.calls) (hm : s.collector.Moves ca s'.collector) :
    Tickets taken (foreign ++ ca.claims?.toList) s' := by
  have hissued : ∀ id, id ∈ foreign ∨ Issued taken s id →
      id ∈ foreign ++ ca.claims?.toList ∨ Issued taken s' id := by
    rintro id (hf | ⟨i, call, c, hi, rfl, hc, hne⟩)
    · exact .inl (List.mem_append_left _ hf)
    · exact .inr ⟨i, call, c, hi, rfl, hcalls ▸ hc, hne⟩
  refine ⟨hm.nextId_eq.trans h.nextId, h.nodup, hcalls ▸ h.lt, hcalls ▸ h.acquiring,
    hcalls ▸ h.holder, ?_, ?_⟩
  · intro call task c id sources hc hst
    obtain ⟨t, ht, ho, hid⟩ := h.waiting (hcalls ▸ hc) hst
    obtain ⟨t', ht', ho', hid'⟩ := hm.task_kept ht
    exact ⟨t', ht', ho'.trans ho, hid'.trans hid⟩
  · refine (h.uses.mono hissued).move hm fun id hid => .inl (List.mem_append_right _ ?_)
    simp [hid]

section

variable {call : Nat} {c : ForwardCall} {use : RegistryUse} {stage : ForwardStage}

/-- A call behind the step of a call is that one, or has not moved. -/
theorem call_of_set (hcalls : s'.calls = s.calls.set call { c with stage }) {k : Nat}
    {c' : ForwardCall} (hk : s'.calls[k]? = some c') :
    k = call ∧ c' = { c with stage } ∨ k ≠ call ∧ s.calls[k]? = some c' := by
  rw [hcalls, List.getElem?_set] at hk
  split at hk
  · next heq =>
      split at hk <;> cases hk
      exact .inl ⟨heq.symm, rfl⟩
  · next hne => exact .inr ⟨Ne.symm hne, hk⟩

/-- An id that was issued stays so in a step of a call. -/
theorem issued_call (h : Tickets taken foreign s) (hc : s.calls[call]? = some c)
    (hm : ForwardCall.Moves s call c.units a c.stage use stage)
    (hcalls : s'.calls = s.calls.set call { c with stage }) {id : CorrelationId}
    (hi : Issued taken s id) : Issued (taken ++ a.takes?.toList) s' id := by
  obtain ⟨i, k, c', hi, rfl, hk, hne⟩ := hi
  have hplace : (taken ++ a.takes?.toList)[i]? = some k :=
    getElem?_append_of_eq_some hi
  by_cases heq : k = call
  · subst heq
    rcases hm.takes with ⟨-, -, ⟨acq, hacq⟩, -⟩ | ⟨-, -, hreg, -⟩
    · exact absurd (List.mem_of_getElem? hi) (h.acquiring hc hacq)
    · refine ⟨i, k, { c with stage }, hplace, rfl, ?_, hreg⟩
      rw [hcalls, List.getElem?_set_self (List.getElem?_eq_some_iff.mp hc).1]
  · refine ⟨i, k, c', hplace, rfl, ?_, hne⟩
    rw [hcalls, List.getElem?_set_ne (Ne.symm heq), hk]

/-- A call that waits does so by a task of its id behind a step of a call. -/
theorem waiting_call (h : Tickets taken foreign s)
    (hm : ForwardCall.Moves s call c.units a c.stage use stage)
    (hcalls : s'.calls = s.calls.set call { c with stage })
    (hcol : s.collector.use? use = some s'.collector) {k task : Nat} {c' : ForwardCall}
    {id : CorrelationId} {sources : List String} (hk : s'.calls[k]? = some c')
    (hst : c'.stage = .waiting id sources task) :
    ∃ t, s'.collector.tasks[task]? = some t ∧ t.isOffer = false ∧ t.id = id := by
  rcases call_of_set hcalls hk with ⟨rfl, rfl⟩ | ⟨-, hold⟩
  · obtain ⟨rfl, rfl⟩ := hm.waiting hst
    have hs' : s.collector.spawn (.await id s.settings.timeout .finding) = s'.collector := by
      simpa [Collector.use?, Collector.step] using hcol
    exact ⟨.await id s.settings.timeout .finding, by simp [← hs'], rfl, rfl⟩
  · obtain ⟨t, ht, ho, hid⟩ := h.waiting hold hst
    obtain ⟨t', ht', ho', hid'⟩ := Collector.task_kept_of_use hcol ht
    exact ⟨t', ht', ho'.trans ho, hid'.trans hid⟩

/-- The ids in use are issued, or somebody else's, behind a step of a call. -/
theorem uses_call (h : Tickets taken foreign s) (hc : s.calls[call]? = some c)
    (hm : ForwardCall.Moves s call c.units a c.stage use stage)
    (hcalls : s'.calls = s.calls.set call { c with stage })
    (hcol : s.collector.use? use = some s'.collector) :
    s'.collector.Uses fun id => id ∈ foreign ∨ Issued (taken ++ a.takes?.toList) s' id := by
  have hmono := h.uses.mono fun id => Or.imp_right (h.issued_call hc hm hcalls)
  refine hmono.used hcol fun ca hu id hid => .inr ?_
  obtain ⟨i, hi, rfl⟩ := h.holder hc ((hm.claims hu).1 id hid)
  rcases hm.takes with ⟨-, hu', -⟩ | ⟨-, -, hreg, -⟩
  · rw [hu] at hu'
    cases hu'
  · refine ⟨i, call, { c with stage }, ?_, rfl, ?_, hreg⟩
    · exact getElem?_append_of_eq_some hi
    · rw [hcalls, List.getElem?_set_self (List.getElem?_eq_some_iff.mp hc).1]

/-- A step of a call keeps the tickets in order. -/
theorem step_call (h : Tickets taken foreign s) (hc : s.calls[call]? = some c)
    (hm : ForwardCall.Moves s call c.units a c.stage use stage)
    (hcalls : s'.calls = s.calls.set call { c with stage })
    (hcol : s.collector.use? use = some s'.collector) :
    Tickets (taken ++ a.takes?.toList) foreign s' := by
  have huses := h.uses_call hc hm hcalls hcol
  have hlen : s'.calls.length = s.calls.length := by rw [hcalls, List.length_set]
  rcases hm.takes with ⟨ha, rfl, ⟨acq, hacq⟩, held, rfl⟩ | ⟨ha, hnt, -, hids, hacqs⟩
  · have hfresh := h.acquiring hc hacq
    rw [ha] at huses ⊢
    refine ⟨?_, ?_, ?_, ?_, ?_, h.waiting_call hm hcalls hcol, huses⟩
    · rw [← Option.some.inj hcol, Option.toList_some, List.length_append]
      exact (congrArg (· + 1) h.nextId).trans (ticketId_succ _)
    · exact List.nodup_append.mpr ⟨h.nodup, by simp, fun k hk k' hk' heq => hfresh
        (by rw [← List.mem_singleton.mp hk', ← heq]; exact hk)⟩
    · intro k hk
      rw [hlen]
      rcases List.mem_append.mp hk with hk | hk
      · exact h.lt k hk
      · rw [List.mem_singleton.mp hk]
        exact (List.getElem?_eq_some_iff.mp hc).1
    · intro k c' acq' hk hst hin
      rcases call_of_set hcalls hk with ⟨rfl, rfl⟩ | ⟨hne, hold⟩
      · cases hst
      · rcases List.mem_append.mp hin with hin | hin
        · exact h.acquiring hold hst hin
        · exact hne (List.mem_singleton.mp hin)
    · intro k c' id hk hid
      rcases call_of_set hcalls hk with ⟨rfl, rfl⟩ | ⟨-, hold⟩
      · cases hid
        exact ⟨taken.length, by simp, h.nextId⟩
      · obtain ⟨i, hi, rfl⟩ := h.holder hold hid
        exact ⟨i, getElem?_append_of_eq_some hi, rfl⟩
  · rw [ha, Option.toList_none, List.append_nil] at huses ⊢
    refine ⟨(Collector.nextId_of_use hcol hnt).trans h.nextId, h.nodup,
      fun k hk => hlen ▸ h.lt k hk, ?_, ?_, h.waiting_call hm hcalls hcol, huses⟩
    · intro k c' acq' hk hst
      rcases call_of_set hcalls hk with ⟨rfl, rfl⟩ | ⟨-, hold⟩
      · obtain ⟨acq, hacq⟩ := hacqs acq' hst
        exact h.acquiring hc hacq
      · exact h.acquiring hold hst
    · intro k c' id hk hid
      rcases call_of_set hcalls hk with ⟨rfl, rfl⟩ | ⟨-, hold⟩
      · exact h.holder hc (hids id hid)
      · exact h.holder hold hid

end

/-- Every move keeps the tickets in order. -/
theorem move (h : Tickets taken foreign s) (hm : s.Moves a s') :
    Tickets (taken ++ a.takes?.toList) (foreign ++ a.foreign?.toList) s' := by
  cases hm with
  | begin ha hcalls hcol =>
      subst ha
      simpa [ForwardAction.takes?, ForwardAction.foreign?] using h.begin hcalls hcol
  | call hc hm hcalls hcol =>
      rw [hm.foreign?_eq_none]
      simpa using h.step_call hc hm hcalls hcol
  | collector ha hcalls hcol =>
      subst ha
      simpa [ForwardAction.takes?, ForwardAction.foreign?] using
        h.collector hcalls (Collector.moves_of_step hcol)

/-- No other call has the id of a ticket. -/
theorem eq_of_holds (h : Tickets taken foreign s) (hlen : taken.length ≤ UInt64.size)
    {call other : Nat} {c : ForwardCall} {id : CorrelationId}
    (hi : ∃ i : Nat, taken[i]? = some call ∧ id = ticketId i) (hc : s.calls[other]? = some c)
    (hid : c.stage.id? = some id) : other = call := by
  obtain ⟨i, hi, rfl⟩ := hi
  obtain ⟨j, hj, heq⟩ := h.holder hc hid
  have hilt := (List.getElem?_eq_some_iff.mp hi).1
  have hjlt := (List.getElem?_eq_some_iff.mp hj).1
  obtain rfl := ticketId_injOn (by omega) (by omega) heq
  exact Option.some.inj (hj.symm.trans hi)

/-- An id that is about to be registered is unused, unless somebody else uses it. -/
theorem unused (h : Tickets taken foreign s) (hlen : taken.length ≤ UInt64.size) {call : Nat}
    {c : ForwardCall} {id : CorrelationId} {held : List UnitGroup} (hc : s.calls[call]? = some c)
    (hst : c.stage = .registering id held) (hf : id ∉ foreign) :
    s.collector.Uses (· ≠ id) := by
  refine h.uses.mono ?_
  intro id' hid' heq
  subst heq
  rcases hid' with hin | ⟨i, call', c', hi, rfl, hc', hne⟩
  · exact hf hin
  · obtain ⟨j, hj, heq⟩ := h.holder hc (by rw [hst]; rfl)
    have hilt := (List.getElem?_eq_some_iff.mp hi).1
    have hjlt := (List.getElem?_eq_some_iff.mp hj).1
    obtain rfl := ticketId_injOn (by omega) (by omega) heq
    obtain rfl := Option.some.inj (hi.symm.trans hj)
    obtain rfl := Option.some.inj (hc.symm.trans hc')
    exact hne _ _ hst

end Tickets

/-- **The calls of an engine have taken their ids one after another.** -/
theorem tickets_of_run {settings : ForwardSettings} {actions : List ForwardAction}
    {s : ForwardEngine} (h : (ForwardEngine.new settings).run actions = some s) :
    Tickets (actions.filterMap ForwardAction.takes?) (actions.filterMap ForwardAction.foreign?)
      s := by
  refine foldlM_induction (P := fun actions s => Tickets (actions.filterMap ForwardAction.takes?)
    (actions.filterMap ForwardAction.foreign?) s) (.new settings) ?_ h
  intro _ _ _ _ _ hT hstep
  rw [filterMap_concat, filterMap_concat]
  exact hT.move (ForwardEngine.moves_of_step hstep).1

end ScatterGather
