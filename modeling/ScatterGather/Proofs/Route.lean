import Mathlib.Data.List.Induction
import Mathlib.Data.List.Nodup
import Mathlib.Data.List.Perm.Basic
import ScatterGather.Proofs.Run
import ScatterGather.Route.Basic

/-!
# The dispatch order of a route

Grouping a route by data source loses no unit and gives every data source one group
(`perm_dispatchUnits`, `nodup_groups`), in which its units stand in the order of the route
(`sqls_of_source`). The units are numbered through from zero in the order of the groups
(`index_dispatchUnits`): the unit with dispatch index `i` is the one at place `i`.
-/

namespace ScatterGather.Route

/-! ### Grouping -/

/-- The data source and the statement of each unit, from groups. -/
def pairs (groups : List (String × List String)) : List (String × String) :=
  groups.flatMap fun g => g.2.map (g.1, ·)

theorem pairs_cons (name : String) (sqls : List String) (rest : List (String × List String)) :
    pairs ((name, sqls) :: rest) = sqls.map (name, ·) ++ pairs rest := rfl

/-- A unit that is added is added once. -/
theorem perm_pairs_addUnit (groups : List (String × List String)) (u : RouteUnit) :
    (pairs (addUnit groups u)).Perm ((u.dataSource, u.sql) :: pairs groups) := by
  induction groups with
  | nil => simp [addUnit, pairs]
  | cons g rest ih =>
      obtain ⟨name, sqls⟩ := g
      unfold addUnit
      split
      · next h =>
          subst h
          simp only [pairs, List.flatMap_cons, List.map_append, List.map_cons, List.map_nil,
            List.append_assoc, List.singleton_append]
          exact List.perm_middle
      · simp only [pairs, List.flatMap_cons] at ih ⊢
        exact (ih.append_left _).trans List.perm_middle

/-- Grouping keeps every unit. -/
theorem perm_pairs_bySource (units : List RouteUnit) :
    (pairs (bySource units)).Perm (units.map fun u => (u.dataSource, u.sql)) := by
  induction units using List.reverseRecOn with
  | nil => rfl
  | append_singleton units u ih =>
      rw [bySource, List.foldl_append, List.map_append]
      exact (perm_pairs_addUnit _ u).trans
        ((ih.cons _).trans (List.perm_append_singleton _ _).symm)

/-- A unit of a data source that has a group makes no new one. -/
theorem map_fst_addUnit (groups : List (String × List String)) (u : RouteUnit) :
    (addUnit groups u).map Prod.fst =
      if u.dataSource ∈ groups.map Prod.fst then groups.map Prod.fst
      else groups.map Prod.fst ++ [u.dataSource] := by
  induction groups with
  | nil => simp [addUnit]
  | cons g rest ih =>
      obtain ⟨name, sqls⟩ := g
      unfold addUnit
      split
      · next h => simp [h]
      · next h =>
          simp only [List.map_cons, ih, List.mem_cons, Ne.symm h, false_or]
          split <;> simp

/-- Every data source has one group. -/
theorem nodup_bySource (units : List RouteUnit) : ((bySource units).map Prod.fst).Nodup := by
  induction units using List.reverseRecOn with
  | nil => simp [bySource]
  | append_singleton units u ih =>
      rw [bySource, List.foldl_append, List.foldl_cons, List.foldl_nil, ← bySource,
        map_fst_addUnit]
      split
      · exact ih
      · next h =>
          refine List.nodup_append.mpr ⟨ih, by simp, fun a ha b hb heq => h ?_⟩
          obtain rfl := List.mem_singleton.mp hb
          exact heq ▸ ha

/-- The data sources of the groups are those of the route, in the order of first appearance. -/
theorem map_fst_bySource (units : List RouteUnit) :
    (bySource units).map Prod.fst = units.foldl (fun names u => addName names u.dataSource) [] := by
  induction units using List.reverseRecOn with
  | nil => rfl
  | append_singleton units u ih =>
      rw [bySource, List.foldl_append, List.foldl_append, List.foldl_cons, List.foldl_nil,
        List.foldl_cons, List.foldl_nil, ← bySource, map_fst_addUnit, ih]
      rfl

/-- A unit that is added comes behind those of its data source. -/
theorem filter_pairs_addUnit {groups : List (String × List String)}
    (h : (groups.map Prod.fst).Nodup) (u : RouteUnit) (source : String) :
    (pairs (addUnit groups u)).filter (·.1 = source) =
      (pairs groups).filter (·.1 = source) ++
        [(u.dataSource, u.sql)].filter (·.1 = source) := by
  induction groups with
  | nil => rfl
  | cons g rest ih =>
      obtain ⟨name, sqls⟩ := g
      obtain ⟨hout, hnodup⟩ := List.nodup_cons.mp h
      unfold addUnit
      split
      · next heq =>
          subst heq
          have hrest : source = u.dataSource → (pairs rest).filter (·.1 = source) = [] := by
            rintro rfl
            apply List.filter_eq_nil_iff.mpr
            intro p hp hname
            obtain ⟨g, hg, hp⟩ := List.mem_flatMap.mp hp
            obtain ⟨sql, -, rfl⟩ := List.mem_map.mp hp
            exact hout (List.mem_map.mpr ⟨g, hg, by simpa using hname⟩)
          rw [pairs_cons, pairs_cons, List.filter_append, List.filter_append]
          by_cases hs : source = u.dataSource
          · simp [hrest hs]
          · simp [Ne.symm hs]
      · rw [pairs_cons, pairs_cons, List.filter_append, List.filter_append, ih hnodup,
          List.append_assoc]

/-- Grouping keeps the units of each data source in their order. -/
theorem filter_pairs_bySource (units : List RouteUnit) (source : String) :
    (pairs (bySource units)).filter (·.1 = source) =
      (units.map fun u => (u.dataSource, u.sql)).filter (·.1 = source) := by
  induction units using List.reverseRecOn with
  | nil => rfl
  | append_singleton units u ih =>
      rw [bySource, List.foldl_append, List.foldl_cons, List.foldl_nil, ← bySource,
        filter_pairs_addUnit (nodup_bySource units), ih, List.map_append, List.filter_append]
      rfl

/-! ### Numbering -/

/-- The units of a group are numbered from its first one on. -/
theorem index_numberUnits (source : String) (keys : Bool) (start : Nat) (sqls : List String) :
    (numberUnits source keys start sqls).map (·.index) = List.range' start sqls.length := by
  induction sqls generalizing start with
  | nil => rfl
  | cons sql rest ih => simp [numberUnits, ih, List.range'_succ]

/-- The units of all groups are numbered through. -/
theorem index_numberGroups (keys : Bool) (start : Nat) (groups : List (String × List String)) :
    ((numberGroups keys start groups).flatMap (·.units)).map (·.index) =
      List.range' start (pairs groups).length := by
  induction groups generalizing start with
  | nil => rfl
  | cons g rest ih =>
      obtain ⟨name, sqls⟩ := g
      rw [numberGroups, List.flatMap_cons, List.map_append, ih, index_numberUnits]
      simp [pairs, List.range'_append_1]

/-- Numbering keeps data sources and statements. -/
theorem map_numberUnits (source : String) (keys : Bool) (start : Nat) (sqls : List String) :
    (numberUnits source keys start sqls).map (fun u => (u.dataSource, u.sql)) =
      sqls.map (source, ·) := by
  induction sqls generalizing start with
  | nil => rfl
  | cons sql rest ih => simp [numberUnits, ih]

/-- Numbering keeps data sources and statements of all groups. -/
theorem map_numberGroups (keys : Bool) (start : Nat) (groups : List (String × List String)) :
    ((numberGroups keys start groups).flatMap (·.units)).map (fun u => (u.dataSource, u.sql)) =
      pairs groups := by
  induction groups generalizing start with
  | nil => rfl
  | cons g rest ih =>
      obtain ⟨name, sqls⟩ := g
      rw [numberGroups, List.flatMap_cons, List.map_append, ih, map_numberUnits]
      simp [pairs]

/-- Numbering keeps the groups. -/
theorem dataSource_numberGroups (keys : Bool) (start : Nat)
    (groups : List (String × List String)) :
    (numberGroups keys start groups).map (·.dataSource) = groups.map Prod.fst := by
  induction groups generalizing start with
  | nil => rfl
  | cons g rest ih => simp [numberGroups, ih]

/-- The units of a group are for its data source. -/
theorem dataSource_of_mem_numberGroups {keys : Bool} {start : Nat}
    {groups : List (String × List String)} {g : UnitGroup} {u : PhysicalUnit}
    (hg : g ∈ numberGroups keys start groups) (hu : u ∈ g.units) :
    u.dataSource = g.dataSource := by
  induction groups generalizing start with
  | nil => simp [numberGroups] at hg
  | cons group rest ih =>
      obtain ⟨name, sqls⟩ := group
      rcases List.mem_cons.mp hg with rfl | hg
      · have hpair := List.mem_map_of_mem (f := fun u => (u.dataSource, u.sql)) hu
        rw [map_numberUnits] at hpair
        obtain ⟨sql, -, h⟩ := List.mem_map.mp hpair
        exact (congrArg Prod.fst h).symm
      · exact ih hg

/-- All units ask for generated keys or none. -/
theorem returnGeneratedKeys_of_mem_numberUnits {source : String} {keys : Bool} {start : Nat}
    {sqls : List String} {u : PhysicalUnit} (hu : u ∈ numberUnits source keys start sqls) :
    u.returnGeneratedKeys = keys := by
  induction sqls generalizing start with
  | nil => cases hu
  | cons sql rest ih =>
      rcases List.mem_cons.mp hu with rfl | hu
      · rfl
      · exact ih hu

/-- All units of all groups ask for generated keys or none. -/
theorem returnGeneratedKeys_of_mem_numberGroups {keys : Bool} {start : Nat}
    {groups : List (String × List String)} {u : PhysicalUnit}
    (hu : u ∈ (numberGroups keys start groups).flatMap (·.units)) :
    u.returnGeneratedKeys = keys := by
  induction groups generalizing start with
  | nil => cases hu
  | cons g rest ih =>
      obtain ⟨name, sqls⟩ := g
      rw [numberGroups, List.flatMap_cons, List.mem_append] at hu
      exact hu.elim returnGeneratedKeys_of_mem_numberUnits ih

/-! ### The units of a route in dispatch order -/

variable (r : Route) (keys : Bool)

/-- Dispatching keeps every unit of the route, with its data source. -/
theorem perm_dispatchUnits :
    ((r.dispatchUnits keys).map fun u => (u.dataSource, u.sql)).Perm
      (r.units.map fun u => (u.dataSource, u.sql)) := by
  rw [dispatchUnits, groups, map_numberGroups]
  exact perm_pairs_bySource r.units

@[simp] theorem length_dispatchUnits : (r.dispatchUnits keys).length = r.size := by
  simpa [size] using (r.perm_dispatchUnits keys).length_eq

/-- **The index of a unit is its place in dispatch order.** -/
theorem index_dispatchUnits : (r.dispatchUnits keys).map (·.index) = List.range r.size := by
  have hlen := congrArg List.length (map_numberGroups keys 0 (bySource r.units))
  rw [List.length_map] at hlen
  rw [dispatchUnits, groups, index_numberGroups, ← hlen, ← groups, ← dispatchUnits,
    length_dispatchUnits, List.range_eq_range']

/-- Every data source has one group. -/
theorem nodup_groups : ((r.groups keys).map (·.dataSource)).Nodup := by
  rw [groups, dataSource_numberGroups]
  exact nodup_bySource r.units

/-- The groups stand in the order in which their data sources first appear. -/
theorem map_dataSource_groups : (r.groups keys).map (·.dataSource) = r.dataSourceNames := by
  rw [groups, dataSource_numberGroups, map_fst_bySource, dataSourceNames]

/-- A unit asks for generated keys when its route does. -/
theorem returnGeneratedKeys_of_mem {u : PhysicalUnit} (hu : u ∈ r.dispatchUnits keys) :
    u.returnGeneratedKeys = keys :=
  returnGeneratedKeys_of_mem_numberGroups hu

/-- The statements of each data source stand in the order of the route. -/
theorem sqls_of_source (source : String) :
    ((r.dispatchUnits keys).filter (·.dataSource = source)).map (·.sql) =
      (r.units.filter (·.dataSource = source)).map (·.sql) := by
  have h := congrArg (List.map Prod.snd) (filter_pairs_bySource r.units source)
  rw [← map_numberGroups keys 0, ← groups, ← dispatchUnits, List.filter_map, List.filter_map,
    List.map_map, List.map_map] at h
  exact h

/-- The units of a group are for its data source. -/
theorem dataSource_of_mem_groups {g : UnitGroup} {u : PhysicalUnit} (hg : g ∈ r.groups keys)
    (hu : u ∈ g.units) : u.dataSource = g.dataSource :=
  dataSource_of_mem_numberGroups hg hu

/-- A route with units has groups. -/
theorem groups_ne_nil (h : r.units ≠ []) : r.groups keys ≠ [] := by
  intro hnil
  have hlen := r.length_dispatchUnits keys
  rw [dispatchUnits, hnil, List.flatMap_nil, List.length_nil, size] at hlen
  exact h (List.eq_nil_of_length_eq_zero hlen.symm)

/-- The units in dispatch order stand in the order of their indexes. -/
theorem pairwise_dispatchUnits :
    (r.dispatchUnits keys).Pairwise fun u v => u.index < v.index := by
  have h := List.pairwise_lt_range (n := r.size)
  rwa [← r.index_dispatchUnits keys, List.pairwise_map] at h

/-- No unit is dispatched twice. -/
theorem nodup_dispatchUnits : (r.dispatchUnits keys).Nodup :=
  (r.pairwise_dispatchUnits keys).imp fun h heq => Nat.ne_of_lt h (congrArg _ heq)

/-- The unit at a place in dispatch order has its place as its index. -/
theorem index_eq_of_getElem? {i : Nat} {u : PhysicalUnit}
    (h : (r.dispatchUnits keys)[i]? = some u) : u.index = i :=
  key_eq_of_getElem? (·.index) (r.index_dispatchUnits keys) h

variable {r keys}

/-- The units of a group are the units of its data source. -/
theorem filter_dispatchUnits {g : UnitGroup} (hg : g ∈ r.groups keys) :
    (r.dispatchUnits keys).filter (·.dataSource = g.dataSource) = g.units := by
  obtain ⟨before, after, hsplit⟩ := List.append_of_mem hg
  have hnone : ∀ groups : List UnitGroup, groups ⊆ r.groups keys →
      (∀ g' ∈ groups, g'.dataSource ≠ g.dataSource) →
      (groups.flatMap (·.units)).filter (·.dataSource = g.dataSource) = [] := by
    intro groups hsub hne
    apply List.filter_eq_nil_iff.mpr
    intro u hu
    obtain ⟨g', hg', hu⟩ := List.mem_flatMap.mp hu
    simpa [r.dataSource_of_mem_groups keys (hsub hg') hu] using hne g' hg'
  have hnodup := r.nodup_groups keys
  rw [hsplit, List.map_append, List.map_cons, List.nodup_append] at hnodup
  obtain ⟨-, hafter, hdisjoint⟩ := hnodup
  have hself : g.units.filter (·.dataSource = g.dataSource) = g.units :=
    List.filter_eq_self.mpr fun u hu => by simpa using r.dataSource_of_mem_groups keys hg hu
  rw [dispatchUnits, hsplit, List.flatMap_append, List.flatMap_cons, List.filter_append,
    List.filter_append, hself, hnone before (by simp [hsplit]) ?_,
    hnone after (by simp [hsplit]) ?_]
  · simp
  · intro g' hg' heq
    exact (List.nodup_cons.mp hafter).1 (List.mem_map.mpr ⟨g', hg', heq⟩)
  · intro g' hg'
    exact hdisjoint _ (List.mem_map_of_mem hg') _ (List.mem_cons_self ..)

end ScatterGather.Route
