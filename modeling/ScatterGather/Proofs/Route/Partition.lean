import ScatterGather.Proofs.Route

/-!
# Grouping is a stable partition

The groups of a route cut its units by data source and leave every order there is to leave
(`groups_stablePartition`): the groups stand in the order in which their data sources first appear,
the units of a group in the order of the route, and the dispatch indexes count through all of them.

The data sources are collected by a fold that takes a name only once. What it keeps is read off the
front of the list: behind one more unit the names seen so far stand where they stood
(`dataSourceNames_concat`), so that an induction from the back gives which names there are and that
they stand by first appearance.
-/

namespace ScatterGather.Route

/-! ### The names of the data sources -/

/-- The data source of every unit, in the order of the route. -/
def sources (r : Route) : List String := r.units.map (·.dataSource)

/-- One more unit adds the name of its data source, unless that has been seen. -/
theorem dataSourceNames_concat (s : Statement) (units : List RouteUnit) (u : RouteUnit) :
    dataSourceNames ⟨s, units ++ [u]⟩ = addName (dataSourceNames ⟨s, units⟩) u.dataSource := by
  simp only [dataSourceNames, List.foldl_append, List.foldl_cons, List.foldl_nil]

theorem sources_concat (s : Statement) (units : List RouteUnit) (u : RouteUnit) :
    sources ⟨s, units ++ [u]⟩ = sources ⟨s, units⟩ ++ [u.dataSource] := by
  simp [sources]

theorem mem_addName {names : List String} {name a : String} :
    a ∈ addName names name ↔ a ∈ names ∨ a = name := by
  unfold addName
  split
  · next h => exact ⟨.inl, fun ha => ha.elim id (· ▸ h)⟩
  · simp

/-- The names are those of the data sources that have a unit. -/
theorem mem_dataSourceNames {r : Route} {source : String} :
    source ∈ r.dataSourceNames ↔ source ∈ r.sources := by
  obtain ⟨s, units⟩ := r
  induction units using List.reverseRecOn with
  | nil => simp [dataSourceNames, sources]
  | append_singleton units u ih =>
      rw [dataSourceNames_concat, sources_concat, mem_addName, ih, List.mem_append,
        List.mem_singleton]

/-- `a` appears before `b` does. -/
def AppearsBefore (names : List String) (a b : String) : Prop := names.idxOf a < names.idxOf b

/-- What has appeared goes on to stand before whatever follows. -/
theorem AppearsBefore.concat {names : List String} {a b : String} (h : AppearsBefore names a b)
    (ha : a ∈ names) (hb : b ∈ names) (name : String) : AppearsBefore (names ++ [name]) a b := by
  rw [AppearsBefore, List.idxOf_append, List.idxOf_append, if_pos ha, if_pos hb]
  exact h

/-- A name that is new appears behind all others. -/
theorem appearsBefore_new {names : List String} {a name : String} (ha : a ∈ names)
    (hnew : name ∉ names) : AppearsBefore (names ++ [name]) a name := by
  rw [AppearsBefore, List.idxOf_append, List.idxOf_append, if_pos ha, if_neg hnew]
  exact Nat.lt_add_left _ (List.idxOf_lt_length_iff.mpr ha)

/-- The names stand in the order in which they first appear. -/
theorem dataSourceNames_byAppearance (r : Route) :
    r.dataSourceNames.Pairwise (AppearsBefore r.sources) := by
  obtain ⟨s, units⟩ := r
  induction units using List.reverseRecOn with
  | nil => exact List.Pairwise.nil
  | append_singleton units u ih =>
      have hmem : ∀ a ∈ dataSourceNames ⟨s, units⟩, a ∈ sources ⟨s, units⟩ :=
        fun a => mem_dataSourceNames.mp
      have hseen := List.Pairwise.imp_of_mem
        (fun {a b} ha hb h => AppearsBefore.concat h (hmem a ha) (hmem b hb) u.dataSource) ih
      rw [dataSourceNames_concat, sources_concat]
      unfold addName
      split
      · exact hseen
      · next hnew =>
          refine List.pairwise_append.mpr ⟨hseen, List.pairwise_singleton _ _, fun a ha b hb => ?_⟩
          obtain rfl := List.mem_singleton.mp hb
          exact appearsBefore_new (hmem a ha) fun h => hnew (mem_dataSourceNames.mpr h)

/-! ### The groups -/

variable {r : Route} {keys : Bool} {g : UnitGroup}

/-- The statements of a group are those of its data source, in the order of the route. -/
theorem sqls_of_mem_groups (hg : g ∈ r.groups keys) :
    g.units.map (·.sql) = (r.units.filter (·.dataSource = g.dataSource)).map (·.sql) := by
  rw [← filter_dispatchUnits hg, sqls_of_source]

/-- A group is there because its data source has a unit. -/
theorem units_ne_nil (hg : g ∈ r.groups keys) : g.units ≠ [] := by
  intro hnil
  have hname : g.dataSource ∈ r.dataSourceNames := by
    rw [← r.map_dataSource_groups keys]
    exact List.mem_map_of_mem hg
  obtain ⟨u, hu, hsource⟩ := List.mem_map.mp (mem_dataSourceNames.mp hname)
  have hsqls := sqls_of_mem_groups hg
  rw [hnil, List.map_nil] at hsqls
  have hmem : u.sql ∈ (r.units.filter (·.dataSource = g.dataSource)).map (·.sql) :=
    List.mem_map_of_mem (List.mem_filter.mpr ⟨hu, by simpa using hsource⟩)
  rw [← hsqls] at hmem
  cases hmem

/-- Groups that cut the units of a route by data source and keep the orders of the route. -/
structure StablePartition (r : Route) (keys : Bool) (groups : List UnitGroup) : Prop where
  /-- One group for each name of a data source, and in the order of the names. -/
  named : groups.map (·.dataSource) = r.dataSourceNames
  /-- No data source has two groups. -/
  distinct : (groups.map (·.dataSource)).Nodup
  /-- The names are those of the data sources that have a unit. -/
  complete : ∀ source, source ∈ r.dataSourceNames ↔ ∃ u ∈ r.units, u.dataSource = source
  /-- The names stand in the order in which they first appear. -/
  byAppearance : r.dataSourceNames.Pairwise (AppearsBefore r.sources)
  /-- No group is empty. -/
  inhabited : ∀ g ∈ groups, g.units ≠ []
  /-- The statements of a group are those of its data source, in the order of the route. -/
  stable : ∀ g ∈ groups,
    g.units.map (·.sql) = (r.units.filter (·.dataSource = g.dataSource)).map (·.sql)
  /-- A unit carries the data source of its group and the flag it was grouped with. -/
  labelled : ∀ g ∈ groups, ∀ u ∈ g.units,
    u.dataSource = g.dataSource ∧ u.returnGeneratedKeys = keys
  /-- The indexes count through the groups. -/
  indexed : (groups.flatMap (·.units)).map (·.index) = List.range r.size
  /-- The groups hold the units of the route, each as often as the route does. -/
  whole : ((groups.flatMap (·.units)).map fun u => (u.dataSource, u.sql)).Perm
    (r.units.map fun u => (u.dataSource, u.sql))
  /-- There are as many units as in the route. -/
  total : (groups.map (·.units.length)).sum = r.size

/-- **Grouping is a stable partition**: of every route, with every flag. -/
theorem groups_stablePartition (r : Route) (keys : Bool) :
    StablePartition r keys (r.groups keys) where
  named := r.map_dataSource_groups keys
  distinct := r.nodup_groups keys
  complete := fun _ => mem_dataSourceNames.trans List.mem_map
  byAppearance := r.dataSourceNames_byAppearance
  inhabited := fun _ => units_ne_nil
  stable := fun _ => sqls_of_mem_groups
  labelled := fun _ hg _ hu => ⟨r.dataSource_of_mem_groups keys hg hu,
    r.returnGeneratedKeys_of_mem keys (List.mem_flatMap.mpr ⟨_, hg, hu⟩)⟩
  indexed := r.index_dispatchUnits keys
  whole := r.perm_dispatchUnits keys
  total := by rw [← List.length_flatMap, ← dispatchUnits, length_dispatchUnits]

end ScatterGather.Route
