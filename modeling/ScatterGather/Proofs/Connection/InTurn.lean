import Mathlib.Data.List.Forall2
import ScatterGather.Connection.GroupRun
import ScatterGather.Proofs.FirstError
import ScatterGather.Proofs.Route

/-!
# What executing a route in turn gives

The plain reference `Route.executeInTurn` runs the groups of a route one after another. Seen from
the units (`Route.executeInTurn_eq`), each of them in dispatch order is answered behind the earlier
ones of its own data source, and the first failure decides (`InTurnVerdict`).
-/

namespace ScatterGather

/-! ### One unit -/

/-- What is kept of the answer to a unit. -/
def ConnectionStrategy.keepAnswer (σ : ConnectionStrategy) (u : PhysicalUnit)
    (r : Except ExecutionError Outcome) : Except ExecutionError Success := r >>= σ.keep u

/-- What is kept of an answer to a unit that does not fail: only the first unit of all keeps its
metadata. -/
inductive UnitGives (σ : ConnectionStrategy) (u : PhysicalUnit) :
    Except ExecutionError Outcome → Success → Prop where
  | rows {q rows} (h : σ.wrap q.rows = .ok rows) :
    UnitGives σ u (.ok (.query q)) (.query ⟨if u.index = 0 then q.metadata else none, rows⟩)
  | counts {counts} : UnitGives σ u (.ok (.update counts)) (.update counts)

/-- How an answer makes its unit fail: it did not come, it is an error, or its rows cannot be
kept. -/
inductive UnitFails (σ : ConnectionStrategy) (u : PhysicalUnit) :
    Except ExecutionError Outcome → ExecutionError → Prop where
  | transport {e} : UnitFails σ u (.error e) e
  | refused {cause} : UnitFails σ u (.ok (.error cause)) (.driver u.dataSource cause)
  | wrapping {q e} (h : σ.wrap q.rows = .error e) : UnitFails σ u (.ok (.query q)) e

section

variable {σ : ConnectionStrategy} {u : PhysicalUnit} {r : Except ExecutionError Outcome}

/-- Of rows is kept what can be wrapped, with the metadata if it was asked for. -/
theorem keepAnswer_query (q : QueryOutcome) : σ.keepAnswer u (.ok (.query q)) = (do
    let rows ← σ.wrap q.rows
    return .query ⟨if u.captures then q.metadata else none, rows⟩) := rfl

/-- Every answer makes its unit fail or is kept. -/
theorem keepAnswer_spec (σ : ConnectionStrategy) (u : PhysicalUnit)
    (r : Except ExecutionError Outcome) :
    match σ.keepAnswer u r with
    | .ok x => UnitGives σ u r x
    | .error e => UnitFails σ u r e := by
  cases r with
  | error e => exact .transport
  | ok o =>
      cases o with
      | error cause => exact .refused
      | update counts => exact .counts
      | query q =>
          rw [keepAnswer_query]
          cases hw : σ.wrap q.rows with
          | error e => exact .wrapping hw
          | ok rows => simpa [PhysicalUnit.captures] using UnitGives.rows (u := u) hw

/-- What an answer gives is what is kept of it. -/
theorem unitGives_iff {x : Success} : UnitGives σ u r x ↔ σ.keepAnswer u r = .ok x := by
  constructor
  · intro h
    cases h with
    | @rows q rows h =>
        rw [keepAnswer_query, h]
        simp [PhysicalUnit.captures, bind, Except.bind, pure, Except.pure]
    | counts => rfl
  · intro h
    have := keepAnswer_spec σ u r
    rwa [h] at this

/-- An answer fails as keeping it does. -/
theorem unitFails_iff {e : ExecutionError} : UnitFails σ u r e ↔ σ.keepAnswer u r = .error e := by
  constructor
  · intro h
    cases h with
    | transport | refused => rfl
    | @wrapping q e h =>
        rw [keepAnswer_query, h]
        rfl
  · intro h
    have := keepAnswer_spec σ u r
    rwa [h] at this

end

/-! ### The units of a group -/

/-- Units in turn, each with those sent before it. -/
def withEarlier (before : List PhysicalUnit) :
    List PhysicalUnit → List (List PhysicalUnit × PhysicalUnit)
  | [] => []
  | u :: rest => (before, u) :: withEarlier (before ++ [u]) rest

theorem withEarlier_append (before units rest : List PhysicalUnit) :
    withEarlier before (units ++ rest) =
      withEarlier before units ++ withEarlier (before ++ units) rest := by
  induction units generalizing before with
  | nil => simp [withEarlier]
  | cons u units ih => simp [withEarlier, ih]

section

variable {σ : ConnectionStrategy} {answers : ConnectionAnswers} {source : String}

/-- Executing units in turn treats one after another, behind those before it. -/
theorem executeUnits_eq (before units : List PhysicalUnit) :
    executeUnits σ answers source before units =
      (withEarlier before units).mapM fun p => σ.keepAnswer p.2 (answers source p.1 p.2) := by
  induction units generalizing before with
  | nil => rfl
  | cons u units ih =>
      rw [withEarlier, List.mapM_cons, ← ih, executeUnits, ConnectionStrategy.keepAnswer]
      cases answers source before u <;> rfl

/-- One unit more that is kept. -/
theorem executeUnits_concat {before : List PhysicalUnit} {u : PhysicalUnit}
    {outcomes : List Success} {x : Success}
    (h : executeUnits σ answers source [] before = .ok outcomes)
    (hk : σ.keepAnswer u (answers source before u) = .ok x) :
    executeUnits σ answers source [] (before ++ [u]) = .ok (outcomes ++ [x]) := by
  rw [executeUnits_eq] at h
  rw [executeUnits_eq, withEarlier_append, List.mapM_append, h]
  simp only [withEarlier, List.nil_append, List.mapM_cons, hk]
  rfl

/-- A unit that fails ends its group. -/
theorem executeUnits_error {before rest : List PhysicalUnit} {u : PhysicalUnit}
    {outcomes : List Success} {e : ExecutionError}
    (h : executeUnits σ answers source [] before = .ok outcomes)
    (hk : σ.keepAnswer u (answers source before u) = .error e) :
    executeUnits σ answers source [] (before ++ u :: rest) = .error e := by
  rw [executeUnits_eq] at h
  rw [executeUnits_eq, withEarlier_append, List.mapM_append, h]
  simp only [withEarlier, List.nil_append, List.mapM_cons, hk]
  rfl

end

/-! ### The units of a route -/

namespace Route

variable (r : Route) (keys : Bool)

/-- The units that are sent before a unit over the same connection. -/
def sentBefore (u : PhysicalUnit) : List PhysicalUnit :=
  (r.dispatchUnits keys).filter fun v => v.dataSource = u.dataSource ∧ v.index < u.index

/-- What is kept of the answer to a unit behind those that are sent before it. -/
def keptOf (σ : ConnectionStrategy) (answers : ConnectionAnswers) (u : PhysicalUnit) :
    Except ExecutionError Success :=
  σ.keepAnswer u (answers u.dataSource (r.sentBefore keys u) u)

variable {r keys}

/-- What is sent before a unit is what stands before it in its group. -/
theorem sentBefore_eq {g : UnitGroup} (hg : g ∈ r.groups keys) {before rest : List PhysicalUnit}
    {u : PhysicalUnit} (hs : g.units = before ++ u :: rest) : r.sentBefore keys u = before := by
  have hsource : u.dataSource = g.dataSource :=
    r.dataSource_of_mem_groups keys hg (by simp [hs])
  have hsorted : g.units.Pairwise fun v v' => v.index < v'.index := by
    rw [← filter_dispatchUnits hg]
    exact (r.pairwise_dispatchUnits keys).filter _
  rw [hs, List.pairwise_append, List.pairwise_cons] at hsorted
  obtain ⟨-, ⟨hrest, -⟩, hbefore⟩ := hsorted
  have hsplit : r.sentBefore keys u = g.units.filter (·.index < u.index) := by
    rw [sentBefore, hsource, ← filter_dispatchUnits hg, List.filter_filter]
    simp only [Bool.decide_and, Bool.and_comm]
  rw [hsplit, hs, List.filter_append, List.filter_eq_self.mpr, List.filter_eq_nil_iff.mpr,
    List.append_nil]
  · intro v hv
    rcases List.mem_cons.mp hv with rfl | hv
    · simp
    · simpa using Nat.le_of_lt (hrest v hv)
  · intro v hv
    simpa using hbefore v hv u (List.mem_cons_self ..)

/-- Executing a group treats its units one after another. -/
theorem execute_eq (σ : ConnectionStrategy) (answers : ConnectionAnswers) {g : UnitGroup}
    (hg : g ∈ r.groups keys) : g.execute σ answers = g.units.mapM (r.keptOf keys σ answers) := by
  suffices h : ∀ before rest, g.units = before ++ rest →
      (withEarlier before rest).mapM (fun p => σ.keepAnswer p.2 (answers g.dataSource p.1 p.2)) =
        rest.mapM (r.keptOf keys σ answers) by
    rw [UnitGroup.execute, executeUnits_eq]
    exact h [] g.units rfl
  intro before rest hs
  induction rest generalizing before with
  | nil => rfl
  | cons u rest ih =>
      have hhead : r.keptOf keys σ answers u = σ.keepAnswer u (answers g.dataSource before u) := by
        rw [keptOf, sentBefore_eq hg hs, r.dataSource_of_mem_groups keys hg (by simp [hs])]
      rw [withEarlier, List.mapM_cons, List.mapM_cons, ih (before ++ [u]) (by simp [hs]), hhead]

/-- **Executing a route in turn treats its units one after another in dispatch order.** -/
theorem executeInTurn_eq (σ : ConnectionStrategy) (answers : ConnectionAnswers) (r : Route)
    (keys : Bool) :
    r.executeInTurn σ answers keys =
      (r.dispatchUnits keys).mapM (r.keptOf keys σ answers) >>= Response.ofUnits := by
  have h : ∀ groups ⊆ r.groups keys,
      (groups.flatMap (·.units)).mapM (r.keptOf keys σ answers) = do
        let outcomes ← groups.mapM (UnitGroup.execute σ answers)
        return outcomes.flatten := by
    intro groups hsub
    induction groups with
    | nil => rfl
    | cons g groups ih =>
        obtain ⟨hg, hsub⟩ := List.cons_subset.mp hsub
        rw [List.flatMap_cons, List.mapM_append, ih hsub, ← execute_eq σ answers hg,
          List.mapM_cons]
        simp
  rw [dispatchUnits, h _ (List.Subset.refl _), executeInTurn]
  simp

end Route

/-! ### The first failure decides -/

/-- What the answers to the units of a route call for. -/
inductive InTurnVerdict (σ : ConnectionStrategy) (answers : ConnectionAnswers) (r : Route)
    (keys : Bool) : Except ExecutionError Response → Prop where
  /-- A unit fails, and all before it in dispatch order do not. -/
  | failed {u e} (hu : u ∈ r.dispatchUnits keys)
    (hf : UnitFails σ u (answers u.dataSource (r.sentBefore keys u) u) e)
    (hlow : ∀ v ∈ r.dispatchUnits keys, v.index < u.index →
      ∃ x, UnitGives σ v (answers v.dataSource (r.sentBefore keys v) v) x) :
    InTurnVerdict σ answers r keys (.error e)
  /-- No unit fails: the response is that of what is kept of their answers. -/
  | answered {outcomes : List Success}
    (ho : List.Forall₂ (fun u x => UnitGives σ u (answers u.dataSource (r.sentBefore keys u) u) x)
      (r.dispatchUnits keys) outcomes) :
    InTurnVerdict σ answers r keys (Response.ofUnits outcomes)

/-- **Executing a route in turn gives what the answers to its units call for.** -/
theorem inTurnVerdict_executeInTurn (σ : ConnectionStrategy) (answers : ConnectionAnswers)
    (r : Route) (keys : Bool) :
    InTurnVerdict σ answers r keys (r.executeInTurn σ answers keys) := by
  rw [Route.executeInTurn_eq]
  cases hm : (r.dispatchUnits keys).mapM (r.keptOf keys σ answers) with
  | error e =>
      obtain ⟨i, u, hu, he, hbefore⟩ := mapM_eq_error.mp hm
      refine .failed (List.mem_of_getElem? hu) (unitFails_iff.mpr he) ?_
      intro v hv hlt
      obtain ⟨j, hj⟩ := List.mem_iff_getElem?.mp hv
      have hij : j < i := by
        rwa [r.index_eq_of_getElem? keys hj, r.index_eq_of_getElem? keys hu] at hlt
      obtain ⟨x, hx⟩ := hbefore j v hij hj
      exact ⟨x, unitGives_iff.mpr hx⟩
  | ok outcomes =>
      have hmap : List.Forall₂ (· = ·) ((r.dispatchUnits keys).map (r.keptOf keys σ answers))
          (outcomes.map .ok) := by
        rw [List.forall₂_eq_eq_eq]
        exact mapM_eq_ok.mp hm
      rw [List.forall₂_map_left_iff, List.forall₂_map_right_iff] at hmap
      exact .answered (hmap.imp fun u x hx => unitGives_iff.mpr hx)

end ScatterGather
