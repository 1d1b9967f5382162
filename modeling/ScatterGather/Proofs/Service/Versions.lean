import ScatterGather.Proofs.Service.Gate
import ScatterGather.Proofs.TableVersions

/-!
# Versions count the statements that have changed a table

A statement makes a table stale when it is one that changes tables, has units, and has been
concluded without failure; then it owes one reload, of its first table (`StatementRun.Fits.reloads`).
What a run has reloaded and what its statements still owe is all that is due of them
(`Service.Accounted.balance`), and behind a list of reloads the versions count those of each table
(`TableVersions.count_of_reloads`). Together they give `Service.versions_count_changes`.
-/

namespace ScatterGather

open TableVersions (reloadsOf)

/-! ### Changes that reload -/

namespace RecordChange

/-- The table whose metadata a change reloads. -/
def table? : RecordChange → Option String
  | .reload table => some table
  | .raise _ _ | .report _ => none

/-- The tables whose metadata changes reload, in their order. -/
def tablesOf (changes : List RecordChange) : List String := changes.filterMap table?

@[simp] theorem tablesOf_append (changes changes' : List RecordChange) :
    tablesOf (changes ++ changes') = tablesOf changes ++ tablesOf changes' :=
  List.filterMap_append

@[simp] theorem tablesOf_raises (counts : List (Counter × Nat)) : tablesOf (raises counts) = [] :=
  List.filterMap_eq_nil_iff.mpr fun x hx => by
    obtain ⟨_, -, rfl⟩ := List.mem_map.mp hx
    rfl

@[simp] theorem tablesOf_beginning (units : Nat) : tablesOf (beginning units) = [] :=
  tablesOf_raises _

@[simp] theorem tablesOf_failing (e : ExecutionError) : tablesOf (failing e) = [] := by
  rw [failing, tablesOf_append, tablesOf_raises]
  rfl

@[simp] theorem tablesOf_reloading (table : String) : tablesOf (reloading table) = [table] :=
  congrArg (table :: ·) (tablesOf_raises Counter.ofReload)

end RecordChange

open RecordChange (tablesOf)

/-- A result without failure reloads the first table of a statement that changes tables. -/
theorem Handler.tablesOf_concluding (statement : Statement) (value : LogicalResult MergedCursor) :
    tablesOf (concluding statement (.ok value)) = (staleTable? statement).toList := by
  rw [concluding]
  cases staleTable? statement with
  | none => rfl
  | some table => exact RecordChange.tablesOf_reloading table

/-- Changes reload tables one after another. -/
theorem Records.tables_changes (r : Records) (changes : List RecordChange) :
    (changes.foldl change r).tables = r.tables.refreshAll (tablesOf changes) := by
  induction changes generalizing r with
  | nil => rfl
  | cons x changes ih =>
      rw [List.foldl_cons, ih]
      cases x <;> rfl

/-! ### The statements that change a table -/

namespace StatementRun

variable {r : StatementRun}

/-- The statement has come to a result that is no failure. -/
def succeeded (r : StatementRun) : Bool :=
  match r.stage with
  | .concluded (.ok _) => true
  | _ => false

/-- The table that a statement has changed: the first of a statement that changes tables, when it
has units and has succeeded. -/
def changedTable? (r : StatementRun) : Option String :=
  if r.route.statement.kind = .ddl ∧ r.route.units ≠ [] ∧ r.succeeded = true then
    r.route.statement.singleTable?
  else none

/-- The statement has changed this table, in whatever case it names it. -/
def changed (table : String) (r : StatementRun) : Bool :=
  r.changedTable?.any (Text.equalsIgnoringCase · table)

/-- A statement that has changed a table has come to a result. -/
theorem exists_of_changed {table : String} (h : r.changed table = true) :
    ∃ value, r.stage = .concluded (.ok value) := by
  unfold changed changedTable? at h
  split at h
  · next hall =>
      have hsucceeded := hall.2.2
      unfold succeeded at hsucceeded
      split at hsucceeded
      · next hs => exact ⟨_, hs⟩
      · cases hsucceeded
  · cases h

/-- **What is due of a statement reloads the table that it has changed**, and no other. -/
theorem Fits.tablesOf_due (h : r.Fits) : tablesOf r.due = r.changedTable?.toList := by
  cases hg : Handler.gated r.transaction r.route.statement with
  | true =>
      have hstage := h.stage_of_settled (Handler.enter_of_gated r.route hg)
      have hfailed : r.succeeded = false := by rw [succeeded, hstage]
      simp [due_of_gated hg, changedTable?, hfailed]
  | false =>
      by_cases hu : r.route.units = []
      · simp [due, Handler.enter_of_nil hg hu, hu, tablesOf, changedTable?]
      · have henter := Handler.enter_of_passed hg hu
        cases h with
        | settled ha _ => cases henter.symm.trans ha
        | admitted _ hs | dispatched _ hs _ | dropped _ hs _ =>
            simp [due, henter, changedTable?, succeeded, hs]
        | @concluded _ result _ hs =>
            cases result with
            | error e =>
                have hconcluding : tablesOf (Handler.concluding r.route.statement (.error e)) = [] :=
                  RecordChange.tablesOf_failing e
                simp [due, henter, hs, changedTable?, succeeded, hconcluding]
            | ok value =>
                simp [due, henter, hs, changedTable?, succeeded, hu, Handler.tablesOf_concluding,
                  Handler.staleTable?]

/-- A statement reloads a table once when it has changed it, and never otherwise. -/
theorem Fits.reloadsOf_due (h : r.Fits) (table : String) :
    reloadsOf table (tablesOf r.due) = if r.changed table then 1 else 0 := by
  rw [h.tablesOf_due, changed]
  cases r.changedTable? with
  | none => rfl
  | some first => simp [reloadsOf, List.countP_cons]

theorem Fits.length_tablesOf_due (h : r.Fits) :
    (tablesOf r.due).length = if r.changedTable?.isSome then 1 else 0 := by
  rw [h.tablesOf_due]
  cases r.changedTable? <;> rfl

end StatementRun

/-! ### Versions along a run -/

namespace Service

variable {engine : Engine} {strategy : MergeStrategy} {type requestType : TransactionType}
  {records : Records} {actions : List ServiceAction} {s s' : Service} {a : ServiceAction}

/-- The tables whose metadata a run has reloaded, in their order. -/
def reloads (s₀ : Service) (actions : List ServiceAction) : List String :=
  tablesOf (emitted step made? s₀ actions)

/-- How often the statements have still to reload a table. -/
def owedReloads (table : String) (s : Service) : Nat :=
  s.owedIn fun changes => reloadsOf table (tablesOf changes)

/-- What the versions of a service say of its statements. -/
structure VersionsCount (s : Service) : Prop where
  /-- A version is the number of statements that have changed the table, but for those that have
  still to reload it. -/
  version : ∀ table, (s.records.tables.version table).toNat + s.owedReloads table =
    s.statements.countP (·.changed table)
  /-- When nothing is owed any more, it is the number of those that have returned. -/
  returned : (∀ r ∈ s.statements, r.owed = []) → ∀ table,
    (s.records.tables.version table).toNat =
      s.statements.countP fun r => r.changed table && r.result?.isSome
  ascending : s.records.tables.tables.Pairwise (· < ·)
  /-- The tables are the names in lower case that have a version. -/
  listed : ∀ name, name ∈ s.records.tables.tables ↔
    Text.asciiLower name = name ∧ 0 < s.records.tables.version name

/-- What a step does to versions: it leaves them all, or a statement reloads the table that it has
changed, and raises the version of this table alone. -/
inductive VersionStep (s : Service) (a : ServiceAction) (s' : Service) : Prop where
  | kept (h : s'.records.tables = s.records.tables)
  | reload {n r table} (ha : a = .write n) (hr : s.statements[n]? = some r)
    (hchanged : r.changedTable? = some table)
    (hversion : ∀ other, (s'.records.tables.version other).toNat =
      (s.records.tables.version other).toNat +
        if Text.equalsIgnoringCase table other then 1 else 0)

/-- In a run the tables have been reloaded one after another. -/
theorem Accounted.tables_eq {s₀ : Service} (h : Accounted s₀ actions s) :
    s.records.tables = s₀.records.tables.refreshAll (reloads s₀ actions) := by
  rw [h.records, Records.tables_changes, reloads]

/-- What has been reloaded and what is owed are the tables that statements have changed. -/
theorem Accounted.reloadsOf_eq {s₀ : Service} (h : Accounted s₀ actions s) (table : String) :
    reloadsOf table (reloads s₀ actions) + s.owedReloads table =
      s.statements.countP (·.changed table) := by
  have hbalance := h.balance (fun changes => reloadsOf table (tablesOf changes)) fun xs ys => by
    rw [RecordChange.tablesOf_append, reloadsOf, List.countP_append]
    rfl
  rw [← sum_map_ite_one, ← List.map_congr_left fun r hr => (h.fits r hr).reloadsOf_due table]
  exact hbalance

/-- Tables are reloaded no more often than requests have entered. -/
theorem length_reloads_le
    (h : (new engine strategy type requestType records).run actions = some s) :
    (reloads (new engine strategy type requestType records) actions).length ≤ requests actions := by
  have hA := accounted_of_run h
  have hbalance := hA.balance (fun changes => (tablesOf changes).length) fun xs ys => by
    rw [RecordChange.tablesOf_append, List.length_append]
  have hdue : s.dueIn (fun changes => (tablesOf changes).length) =
      s.statements.countP (·.changedTable?.isSome) := by
    rw [← sum_map_ite_one, dueIn,
      List.map_congr_left fun r hr => (hA.fits r hr).length_tablesOf_due]
  calc (reloads (new engine strategy type requestType records) actions).length
      ≤ s.statements.countP (·.changedTable?.isSome) := hdue ▸ Nat.le.intro hbalance
    _ ≤ s.statements.length := List.countP_le_length
    _ = requests actions := (shared_of_run h).2.2

/-- The versions of a run count the reloads that it has made. -/
theorem countsReloads_of_run
    (h : (new engine strategy type requestType records).run actions = some s)
    (htables : records.tables = .empty) (hfew : requests actions < 2 ^ 64) :
    TableVersions.CountsReloads (reloads (new engine strategy type requestType records) actions)
      s.records.tables := by
  have htablesEq := (accounted_of_run h).tables_eq
  have hstart : (new engine strategy type requestType records).records.tables = .empty := htables
  rw [htablesEq, hstart]
  exact TableVersions.count_of_reloads (Nat.lt_of_le_of_lt (length_reloads_le h) hfew)

/-- At any moment of a run the versions count the statements that have changed tables. -/
theorem versionsCount_of_run
    (h : (new engine strategy type requestType records).run actions = some s)
    (htables : records.tables = .empty) (hfew : requests actions < 2 ^ 64) : VersionsCount s := by
  obtain ⟨hversion, hascending, hlisted⟩ := countsReloads_of_run h htables hfew
  have hcount : ∀ table, (s.records.tables.version table).toNat + s.owedReloads table =
      s.statements.countP (·.changed table) := fun table => by
    rw [hversion, (accounted_of_run h).reloadsOf_eq]
  refine ⟨hcount, fun hquiet table => ?_, hascending, hlisted⟩
  have howed : s.owedReloads table = 0 := by
    refine List.sum_eq_zero fun x hx => ?_
    obtain ⟨r, hr, rfl⟩ := List.mem_map.mp hx
    rw [hquiet r hr]
    rfl
  have hreturned : s.statements.countP (fun r => r.changed table && r.result?.isSome) =
      s.statements.countP (·.changed table) := by
    refine List.countP_congr fun r hr => ?_
    rw [Bool.and_eq_true, and_iff_left_iff_imp]
    intro hchanged
    obtain ⟨value, hs⟩ := StatementRun.exists_of_changed hchanged
    exact Option.isSome_iff_exists.mpr ⟨_, StatementRun.result?_eq_some.mpr ⟨hs, hquiet r hr⟩⟩
  rw [hreturned, ← hcount, howed, Nat.add_zero]

/-- A run that goes on reloads further tables. -/
theorem reloads_append {s₀ : Service} (h : s₀.run actions = some s) (more : List ServiceAction) :
    reloads s₀ (actions ++ more) = reloads s₀ actions ++ reloads s more := by
  rw [reloads, emitted_append h, RecordChange.tablesOf_append]
  rfl

/-- Requests that have entered stay among those that enter later. -/
theorem requests_append (actions more : List ServiceAction) :
    requests (actions ++ more) = requests actions + requests more := by
  rw [requests, List.filterMap_append, List.length_append]
  rfl

/-- **A step leaves all versions, or raises that of the table which its statement has changed.** -/
theorem versionStep_of_run
    (h : (new engine strategy type requestType records).run actions = some s)
    (htables : records.tables = .empty) (hfew : requests actions < 2 ^ 64)
    (hs : s.step a = some s') : VersionStep s a s' := by
  cases moves_of_step hs with
  | transaction _ hs' | enters _ hs' | engine _ hs' => exact .kept (hs' ▸ rfl)
  | @statement n r t r' hr hm hs' =>
      cases hm with
      | begins | concludes | leaves => exact .kept (hs' ▸ rfl)
      | @writes c owed ho =>
          cases c with
          | raise | report => exact .kept (hs' ▸ rfl)
          | reload table =>
              have hdue : table ∈ tablesOf r.due := by
                rw [← written_append_owed h hr, ho]
                simp [tablesOf, RecordChange.table?]
              rw [((accounted_of_run h).fits r (List.mem_of_getElem? hr)).tablesOf_due] at hdue
              refine .reload rfl hr (Option.mem_toList.mp hdue) fun other => ?_
              have hrun := foldlM_concat_eq_some.mpr ⟨s, h, hs⟩
              have hone : reloads s [.write n] = [table] := by
                simp [reloads, emitted, made?, ServiceAction.statement?, StatementRun.made?, hr, ho,
                  tablesOf, RecordChange.table?, hs]
              rw [(countsReloads_of_run hrun htables (by rwa [requests_append])).version,
                (countsReloads_of_run h htables hfew).version, reloads_append h, hone]
              simp [reloadsOf, List.countP_append, List.countP_cons]

/-- **Versions never decrease.** -/
theorem version_le_of_run {before after : List ServiceAction} {u : Service}
    (h : (new engine strategy type requestType records).run (before ++ after) = some s)
    (hu : (new engine strategy type requestType records).run before = some u)
    (htables : records.tables = .empty) (hfew : requests (before ++ after) < 2 ^ 64)
    (table : String) : u.records.tables.version table ≤ s.records.tables.version table := by
  have hfewer : requests before < 2 ^ 64 := by
    rw [requests_append] at hfew
    omega
  rw [UInt64.le_iff_toNat_le, (countsReloads_of_run h htables hfew).version,
    (countsReloads_of_run hu htables hfewer).version, reloads_append hu, reloadsOf, reloadsOf,
    List.countP_append]
  exact Nat.le_add_right ..

/-- **Versions count the statements that have changed a table.** In every history of a service
whose tables have not been reloaded before, at any moment, each version is the number of statements
that have changed the table, but for those that have still to reload it; a step raises no other
version, and none ever decreases. -/
theorem versions_count_changes
    (h : (new engine strategy type requestType records).run actions = some s)
    (htables : records.tables = .empty) (hfew : requests actions < 2 ^ 64) :
    VersionsCount s ∧ (∀ a s', s.step a = some s' → VersionStep s a s') ∧
      ∀ before after u, actions = before ++ after →
        (new engine strategy type requestType records).run before = some u →
        ∀ table, u.records.tables.version table ≤ s.records.tables.version table := by
  refine ⟨versionsCount_of_run h htables hfew, fun a s' => versionStep_of_run h htables hfew, ?_⟩
  rintro before after u rfl hu table
  exact version_le_of_run h hu htables hfew table

/-- Behind a statement that has changed the table `t`, and one that the gate has stopped, another one
changes it, which names it in upper case and a second table behind it. -/
def changedAgain : List ServiceAction :=
  mixedSchedule ++
    [.enter ⟨(Route.ofStatement ⟨.ddl, ["T", "u"], false⟩).withUnit "ds_0" "c", none⟩, .write 3,
      .write 3, .dispatch 3, .connection (.ask 1), .connection (.acquired 1 none),
      .connection (.launch 1), .connection (.send (.call 1)),
      .connection (.answer (.call 1) (.result (.ok (.update ⟨0, 0⟩)))),
      .connection (.finish (.call 1)), .connection (.collect 1), .conclude 3, .write 3, .write 3]

/-- Two statements have changed the one table, in whatever case they name it, and nothing else. -/
theorem versions_count_changes_again : ∃ s, overConnections.run changedAgain = some s ∧
    VersionsCount s ∧ s.statements.map (·.changedTable?) = [some "t", none, none, some "T"] ∧
    s.records.tables.version "T" = 2 ∧ s.records.tables.tables = ["t"] := by
  have hrun : ∃ s, overConnections.run changedAgain = some s ∧
      s.statements.map (·.changedTable?) = [some "t", none, none, some "T"] ∧
      s.records.tables = (TableVersions.empty.refresh "t").refresh "T" := ⟨_, rfl, rfl, rfl⟩
  obtain ⟨s, hs, hchanged, htables⟩ := hrun
  have hlower : Text.asciiLower "t" = "t" ∧ Text.asciiLower "T" = "t" := by
    rw [← String.toList_inj, ← String.toList_inj, Text.asciiLower, Text.asciiLower,
      String.toList_map, String.toList_map]
    exact ⟨rfl, rfl⟩
  have hentries : (TableVersions.empty.refresh "t").refresh "T" = ⟨[("t", 2)]⟩ := by
    simp only [TableVersions.refresh, TableVersions.empty, TableVersions.raise, hlower,
      String.lt_irrefl, if_true, if_false]
    rfl
  refine ⟨s, hs, (versions_count_changes hs rfl (by decide)).1, hchanged, ?_⟩
  rw [htables, hentries]
  exact ⟨by simp [TableVersions.version, hlower], rfl⟩

end Service

end ScatterGather
