import ScatterGather.CommandLine.Run
import ScatterGather.Proofs.Worker.Permits

/-!
# What the program starts with

A configuration that `Config.validate` accepts is meant to be one that an engine can be built for.
The main statement, `validated_startable`, says how far that goes: over channels there always is an
engine, and over connections there is one up to `Pool.maxPermits` workers. Nothing holds the number
of workers below that bound before the pool is made (`validated_unstartable`).

`Config.Valid` is what `validate` checks, and `FreshEngine` what an engine is before its first call.
For the whole program `plan_of_load` follows: a configuration that has been loaded is served, or it
asks for too many workers.
-/

namespace ScatterGather

variable {c : Config} {parallelism : Nat} {engine : Engine}

/-! ### Configurations that are accepted -/

namespace Config

/-- What an accepted configuration promises. -/
structure Valid (c : Config) : Prop where
  workers : c.executorSize ≠ some 0
  backendTimeout : c.backendTimeoutSecs ≠ 0
  fetchSize : c.fetchSize ≠ 0
  ports : ∀ s ∈ c.dataSources, ':' ∈ s.2.toList

theorem portless?_eq_none_iff {sources : List (String × String)} :
    portless? sources = none ↔ ∀ s ∈ sources, ':' ∈ s.2.toList := by
  simp [portless?]

/-- The check accepts exactly what keeps the promises. -/
theorem validate_eq_ok_iff : c.validate = .ok () ↔ c.Valid := by
  constructor
  · intro h
    unfold validate at h
    split at h
    · cases h
    next hworkers =>
    split at h
    · cases h
    next htimeout =>
    split at h
    · cases h
    next hfetch =>
    split at h
    · cases h
    next hports => exact ⟨hworkers, htimeout, hfetch, portless?_eq_none_iff.mp hports⟩
  · rintro ⟨hworkers, htimeout, hfetch, hports⟩
    simp [validate, hworkers, htimeout, hfetch, portless?_eq_none_iff.mpr hports]

/-- An accepted configuration has workers. -/
theorem Valid.workers_pos (h : c.Valid) : 0 < c.workers parallelism := by
  unfold Config.workers
  cases hsize : c.executorSize with
  | none => exact Nat.lt_of_lt_of_le (by decide : 0 < 4) (Nat.le_max_right parallelism 4)
  | some size =>
      have hne : size ≠ 0 := fun h0 => h.workers (h0 ▸ hsize)
      simpa using Nat.pos_of_ne_zero fun h0 => hne (UInt64.toNat_inj.mp h0)

/-- What comes out of the overrides has been accepted. -/
theorem valid_of_resolve {c' : Config} {env : Environment} (h : (c.resolve env).2 = .ok c') :
    c'.Valid := by
  unfold resolve at h
  simp only at h
  cases hvalid : (c.applyEnvironment env).validate with
  | error fault =>
      rw [hvalid] at h
      cases h
  | ok _ =>
      rw [hvalid] at h
      cases h
      exact validate_eq_ok_iff.mp hvalid

/-- What is loaded has been accepted. -/
theorem valid_of_load {formats : Formats} {disk : Disk} {env : Environment}
    {named : Option String} (h : (load disk env named formats).2 = .ok c) : c.Valid := by
  have hkept : ∀ r : Except ConfigFault Config, r.mapError LoadFault.invalid = .ok c →
      r = .ok c := by
    intro r hr
    cases r with
    | error fault => cases hr
    | ok c' =>
        cases hr
        rfl
  unfold load at h
  simp only at h
  split at h
  · cases h
  · split at h
    · cases h
    · split at h
      · cases h
      · exact valid_of_resolve (hkept _ h)

end Config

/-- What the arguments override is not what the check looks at. -/
theorem Config.Valid.apply (h : c.Valid) (a : CommandLine.Arguments) : (a.apply c).Valid :=
  ⟨h.workers, h.backendTimeout, h.fetchSize, h.ports⟩

/-! ### Engines that are built -/

/-- An engine that has begun no call, for a configuration; all its workers are free. -/
structure FreshEngine (parallelism : Nat) (c : Config) (engine : Engine) : Prop where
  mode : engine.mode = c.mode
  callCount : engine.callCount = 0
  workers : ∀ e, engine = .connection e →
    e.workers = .ofPool ⟨c.workers parallelism, c.workers parallelism, [], []⟩

namespace Engine

/-- There is no engine only where connections would have more workers than a pool has permits. -/
theorem ofConfig?_eq_none_iff : ofConfig? parallelism c = none ↔
    c.mode = .connection ∧ Pool.maxPermits < c.workers parallelism := by
  unfold ofConfig?
  cases hmode : c.mode with
  | connection =>
      rw [← @Pool.ofSize?_eq_none_iff (c.workers parallelism)]
      cases Pool.ofSize? (c.workers parallelism) <;> simp
  | forward => simp

/-- The engine of an accepted configuration begins afresh. -/
theorem fresh_of_ofConfig? (hc : c.Valid) (h : ofConfig? parallelism c = some engine) :
    FreshEngine parallelism c engine := by
  unfold ofConfig? at h
  cases hmode : c.mode with
  | connection =>
      simp only [hmode] at h
      obtain ⟨pool, hpool, heq⟩ := Option.bind_eq_some_iff.mp h
      obtain ⟨-, rfl⟩ := Pool.ofSize?_eq_some_iff.mp hpool
      cases heq
      have hworkers : max (c.workers parallelism) 1 = c.workers parallelism :=
        Nat.max_eq_left hc.workers_pos
      refine ⟨hmode.symm, rfl, ?_⟩
      rintro e ⟨⟩
      simp only [ConnectionEngine.new, Pool.ofSize, hworkers]
  | forward =>
      simp only [hmode] at h
      cases h
      exact ⟨hmode.symm, rfl, nofun⟩

end Engine

/-! ### A run of the program -/

namespace CommandLine

/-- A configuration that has been loaded is served by a fresh engine, or asks for too many
workers. -/
theorem plan_of_load {args : List String} {a : Arguments} {disk : Disk} {env : Environment}
    {formats : Formats} (hargs : Arguments.read args = .ok a)
    (hload : (Config.load disk env a.config formats).2 = .ok c) :
    (∃ engine, (plan parallelism args disk env formats).2 = .serve (a.apply c) engine ∧
      FreshEngine parallelism (a.apply c) engine) ∨
    (plan parallelism args disk env formats).2 = .fail .tooManyWorkers ∧
      (a.apply c).mode = .connection ∧ Pool.maxPermits < c.workers parallelism := by
  obtain ⟨warnings, hl⟩ : ∃ warnings, Config.load disk env a.config formats = (warnings, .ok c) :=
    ⟨_, Prod.ext rfl hload⟩
  have hvalid : (a.apply c).Valid := (Config.valid_of_load hload).apply a
  unfold plan
  simp only [hargs, hl]
  cases he : Engine.ofConfig? parallelism (a.apply c) with
  | none => exact .inr ⟨rfl, Engine.ofConfig?_eq_none_iff.mp he⟩
  | some engine => exact .inl ⟨engine, rfl, Engine.fresh_of_ofConfig? hvalid he⟩

end CommandLine

/-- **An accepted configuration can be started**, and starts afresh, unless it asks for more workers
than a pool over connections can have. -/
theorem validated_startable (h : c.validate = .ok ()) :
    (Engine.ofConfig? parallelism c = none ↔
      c.mode = .connection ∧ Pool.maxPermits < c.workers parallelism) ∧
    ∀ engine, Engine.ofConfig? parallelism c = some engine → FreshEngine parallelism c engine :=
  ⟨Engine.ofConfig?_eq_none_iff,
    fun _ => Engine.fresh_of_ofConfig? (Config.validate_eq_ok_iff.mp h)⟩

/-- As many workers as a pool can have. -/
def mostWorkers : Config := { executorSize := some 2305843009213693951 }

theorem validated_startable_mostWorkers : ∃ engine, mostWorkers.validate = .ok () ∧
    Engine.ofConfig? 4 mostWorkers = some engine ∧ FreshEngine 4 mostWorkers engine := by
  have hvalid : mostWorkers.validate = .ok () := by decide
  have hengine : ∃ engine, Engine.ofConfig? 4 mostWorkers = some engine := ⟨_, rfl⟩
  obtain ⟨engine, he⟩ := hengine
  exact ⟨engine, hvalid, he, (validated_startable hvalid).2 engine he⟩

/-- One worker more than that. -/
def oneWorkerMore : Config := { executorSize := some 2305843009213693952 }

/-- It is accepted all the same, and a run with it breaks before it serves. -/
theorem validated_unstartable : oneWorkerMore.validate = .ok () ∧
    Engine.ofConfig? 4 oneWorkerMore = none ∧
    ∃ r, r = CommandLine.run 4 (fun _ => false) [] (fun _ => .absent)
        [(Config.executorSizeVariable, "2305843009213693952")] ∧
      r.failure = some .tooManyWorkers ∧ r.code = 101 ∧ r.served = false :=
  ⟨rfl, rfl, _, rfl, rfl, rfl, rfl⟩

end ScatterGather
