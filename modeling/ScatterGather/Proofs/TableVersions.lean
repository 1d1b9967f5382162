import Mathlib.Algebra.Order.Group.Nat
import ScatterGather.TableVersions

/-!
# Versions count reloads

However often tables are reloaded, the names that are kept ascend and are in lower case
(`TableVersions.Sound`), and a reload raises the version of its own table alone
(`TableVersions.version_refresh`). So behind any list of reloads the version of a table is the number
of those that name it, in whatever case, and the tables that are kept are those with a version
(`TableVersions.count_of_reloads`).
-/

namespace ScatterGather

/-! ### Lower case -/

namespace Text

theorem toLower_toLower (c : Char) : c.toLower.toLower = c.toLower := by
  unfold Char.toLower
  split
  · next h =>
      have hlow := UInt32.le_iff_toNat_le.mp h.1
      have hhigh := UInt32.le_iff_toNat_le.mp h.2
      rw [dif_neg]
      rintro ⟨-, h'⟩
      have hnot := UInt32.le_iff_toNat_le.mp h'
      simp at hlow hhigh hnot
      omega
  · rfl

/-- What is in lower case stays so. -/
theorem asciiLower_asciiLower (s : String) : asciiLower (asciiLower s) = asciiLower s := by
  unfold asciiLower
  rw [String.map_map]
  congr 1
  funext c
  exact toLower_toLower c

theorem equalsIgnoringCase_iff {a b : String} :
    equalsIgnoringCase a b = true ↔ asciiLower a = asciiLower b := by
  simp [equalsIgnoringCase]

end Text

namespace TableVersions

open Text

/-- The names that are kept ascend and are in lower case. -/
structure Sound (t : TableVersions) : Prop where
  ascending : t.tables.Pairwise (· < ·)
  lower : ∀ name ∈ t.tables, asciiLower name = name

theorem sound_empty : empty.Sound := ⟨.nil, nofun⟩

/-! ### Raising one version -/

section

variable {name x : String} {entries : List (String × UInt64)}

theorem mem_raise : x ∈ (raise name entries).map (·.1) ↔ x = name ∨ x ∈ entries.map (·.1) := by
  induction entries with
  | nil => simp [raise]
  | cons entry rest ih =>
      obtain ⟨n, v⟩ := entry
      rw [raise]
      split
      · simp
      · split
        · next heq => simp [heq]
        · simp only [List.map_cons, List.mem_cons, ih]
          exact or_left_comm

/-- Names that ascend still do so. -/
theorem ascending_raise (h : (entries.map (·.1)).Pairwise (· < ·)) :
    ((raise name entries).map (·.1)).Pairwise (· < ·) := by
  induction entries with
  | nil => exact List.pairwise_singleton ..
  | cons entry rest ih =>
      obtain ⟨n, v⟩ := entry
      obtain ⟨hn, hrest⟩ := List.pairwise_cons.mp h
      rw [raise]
      split
      · next hlt =>
          refine List.pairwise_cons.mpr ⟨fun y hy => ?_, h⟩
          rcases List.mem_cons.mp hy with rfl | hy
          · exact hlt
          · exact String.lt_trans hlt (hn y hy)
      · next hlt =>
          split
          · exact h
          · next hne =>
              refine List.pairwise_cons.mpr ⟨fun y hy => ?_, ih hrest⟩
              rcases mem_raise.mp hy with rfl | hy
              · exact Std.lt_of_le_of_ne (String.not_lt.mp hlt) (Ne.symm hne)
              · exact hn y hy

/-- Other names keep their version. -/
theorem lookup_raise_of_ne (h : x ≠ name) : (raise name entries).lookup x = entries.lookup x := by
  induction entries with
  | nil => rw [raise, List.lookup_cons, beq_false_of_ne h]
  | cons entry rest ih =>
      obtain ⟨n, v⟩ := entry
      rw [raise]
      split
      · rw [List.lookup_cons, beq_false_of_ne h]
      · split
        · next heq =>
            subst heq
            simp only [List.lookup_cons, beq_false_of_ne h]
        · rw [List.lookup_cons, List.lookup_cons, ih]

/-- A name that comes before all others has no version yet. -/
theorem lookup_eq_none (h : ∀ y ∈ entries.map (·.1), name < y) : entries.lookup name = none := by
  refine List.lookup_eq_none_iff.mpr fun entry hentry => ?_
  have hne : name ≠ entry.1 := by
    intro heq
    exact String.lt_irrefl name (heq ▸ h entry.1 (List.mem_map_of_mem hentry))
  simpa using hne

/-- The name itself gets the next version. -/
theorem lookup_raise (h : (entries.map (·.1)).Pairwise (· < ·)) :
    (raise name entries).lookup name = some ((entries.lookup name).getD 0 + 1) := by
  induction entries with
  | nil => simp [raise]
  | cons entry rest ih =>
      obtain ⟨n, v⟩ := entry
      obtain ⟨hn, hrest⟩ := List.pairwise_cons.mp h
      rw [raise]
      split
      · next hlt =>
          have hfirst : ∀ y ∈ ((n, v) :: rest).map (·.1), name < y :=
            List.forall_mem_cons.mpr ⟨hlt, fun y hy => String.lt_trans hlt (hn y hy)⟩
          rw [lookup_eq_none hfirst]
          simp
      · split
        · next heq => simp [heq]
        · next hne =>
            rw [List.lookup_cons, beq_false_of_ne hne, List.lookup_cons, beq_false_of_ne hne,
              ih hrest]

end

/-! ### Reloads -/

variable {t : TableVersions} {name : String}

/-- A reload keeps the names ascending and in lower case. -/
theorem Sound.refresh (h : t.Sound) (table : String) : (t.refresh table).Sound where
  ascending := ascending_raise h.ascending
  lower name hname := by
    rcases mem_raise.mp hname with rfl | hname
    · exact asciiLower_asciiLower table
    · exact h.lower name hname

/-- **A reload raises the version of its own table alone**, in whatever case it is named. -/
theorem Sound.version_refresh (h : t.Sound) (table other : String) :
    (t.refresh table).version other =
      t.version other + if equalsIgnoringCase table other then 1 else 0 := by
  unfold version TableVersions.refresh
  by_cases heq : equalsIgnoringCase table other
  · rw [if_pos heq, ← equalsIgnoringCase_iff.mp heq, lookup_raise h.ascending]
    rfl
  · have hne : asciiLower other ≠ asciiLower table := fun h' =>
      heq (equalsIgnoringCase_iff.mpr h'.symm)
    rw [if_neg heq, lookup_raise_of_ne hne]
    simp

/-- What reloads one after another lead to. -/
def refreshAll (t : TableVersions) (reloads : List String) : TableVersions :=
  reloads.foldl refresh t

/-- The number of reloads of a table, in whatever case it is named. -/
def reloadsOf (table : String) (reloads : List String) : Nat :=
  reloads.countP (equalsIgnoringCase · table)

theorem Sound.refreshAll (h : t.Sound) (reloads : List String) : (t.refreshAll reloads).Sound := by
  induction reloads generalizing t with
  | nil => exact h
  | cons table reloads ih => exact ih (h.refresh table)

theorem Sound.version_refreshAll (h : t.Sound) (reloads : List String) (table : String) :
    (t.refreshAll reloads).version table =
      t.version table + UInt64.ofNat (reloadsOf table reloads) := by
  induction reloads generalizing t with
  | nil => simp [TableVersions.refreshAll, reloadsOf]
  | cons reload reloads ih =>
      have hnext : (t.refreshAll (reload :: reloads)).version table =
          ((t.refresh reload).refreshAll reloads).version table := rfl
      rw [hnext, ih (h.refresh reload), h.version_refresh, reloadsOf, reloadsOf, List.countP_cons,
        UInt64.add_assoc]
      congr 1
      cases equalsIgnoringCase reload table <;> simp [UInt64.ofNat_add, UInt64.add_comm]

theorem mem_tables_refreshAll (reloads : List String) :
    name ∈ (t.refreshAll reloads).tables ↔
      name ∈ t.tables ∨ ∃ reload ∈ reloads, asciiLower reload = name := by
  induction reloads generalizing t with
  | nil => simp [refreshAll]
  | cons reload reloads ih =>
      have hnext : (t.refreshAll (reload :: reloads)).tables =
          ((t.refresh reload).refreshAll reloads).tables := rfl
      have hone : name ∈ (t.refresh reload).tables ↔ asciiLower reload = name ∨ name ∈ t.tables :=
        mem_raise.trans (or_congr_left eq_comm)
      rw [hnext, ih, hone]
      simp only [List.mem_cons, exists_eq_or_imp]
      rw [or_assoc, or_left_comm]

/-- What versions say behind reloads. -/
structure CountsReloads (reloads : List String) (t : TableVersions) : Prop where
  version : ∀ table, (t.version table).toNat = reloadsOf table reloads
  ascending : t.tables.Pairwise (· < ·)
  /-- The tables are the names in lower case that have a version. -/
  listed : ∀ name, name ∈ t.tables ↔ asciiLower name = name ∧ 0 < t.version name

/-- **Versions count reloads**, unless one overflows. -/
theorem count_of_reloads {reloads : List String} (h : reloads.length < 2 ^ 64) :
    CountsReloads reloads (empty.refreshAll reloads) := by
  have hversion : ∀ table, ((empty.refreshAll reloads).version table).toNat =
      reloadsOf table reloads := by
    intro table
    have hle : reloadsOf table reloads ≤ reloads.length := List.countP_le_length
    have hzero : empty.version table = 0 := rfl
    rw [sound_empty.version_refreshAll, hzero, UInt64.zero_add, UInt64.toNat_ofNat',
      Nat.mod_eq_of_lt (Nat.lt_of_le_of_lt hle h)]
  refine ⟨hversion, (sound_empty.refreshAll reloads).ascending, fun name => ?_⟩
  have hpositive : 0 < (empty.refreshAll reloads).version name ↔
      ∃ reload ∈ reloads, asciiLower reload = asciiLower name := by
    rw [UInt64.lt_iff_toNat_lt, hversion, reloadsOf]
    simp [List.countP_pos_iff, equalsIgnoringCase_iff]
  rw [hpositive, mem_tables_refreshAll]
  constructor
  · rintro (hname | ⟨reload, hreload, rfl⟩)
    · cases hname
    · exact ⟨asciiLower_asciiLower reload, reload, hreload, (asciiLower_asciiLower reload).symm⟩
  · rintro ⟨hname, reload, hreload, heq⟩
    exact .inr ⟨reload, hreload, heq.trans hname⟩

end TableVersions

end ScatterGather
