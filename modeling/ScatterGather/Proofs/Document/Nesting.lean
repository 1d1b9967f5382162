import Mathlib.Data.List.Basic
import ScatterGather.Document.Basic

/-!
# How deep documents nest

`Document.depth` counts how many lists and tables stand around the innermost value. `Document.Plain`
are the documents that every writer has a form for: all their numbers have 64 bits, and nothing in
them is malformed or foreign. A plain document can be set aside exactly when it nests no deeper than
allowed (`Plain.keepable_iff`).
-/

namespace ScatterGather.Document

/-! ### Depth -/

mutual

/-- How many lists and tables stand around the innermost value, this one among them. -/
def depth : Document → Nat
  | .list items => depthOfItems items + 1
  | .table entries => depthOfEntries entries + 1
  | _ => 0

/-- The depth of the deepest item. -/
def depthOfItems : List Document → Nat
  | [] => 0
  | d :: ds => max d.depth (depthOfItems ds)

/-- The depth of the deepest key or value. -/
def depthOfEntries : List (Document × Document) → Nat
  | [] => 0
  | (k, v) :: es => max (max k.depth v.depth) (depthOfEntries es)

end

variable {items : List Document} {entries : List (Document × Document)} {levels : Nat}

theorem depthOfItems_le_iff : depthOfItems items ≤ levels ↔ ∀ d ∈ items, d.depth ≤ levels := by
  induction items with
  | nil => simp [depthOfItems]
  | cons d ds ih => rw [depthOfItems, Nat.max_le, ih, List.forall_mem_cons]

theorem depthOfEntries_le_iff :
    depthOfEntries entries ≤ levels ↔ ∀ e ∈ entries, e.1.depth ≤ levels ∧ e.2.depth ≤ levels := by
  induction entries with
  | nil => simp [depthOfEntries]
  | cons e es ih => rw [depthOfEntries, Nat.max_le, Nat.max_le, ih, List.forall_mem_cons]

theorem depth_list_le_iff :
    (list items).depth ≤ levels + 1 ↔ ∀ d ∈ items, d.depth ≤ levels := by
  rw [depth, Nat.add_le_add_iff_right, depthOfItems_le_iff]

theorem depth_table_le_iff :
    (table entries).depth ≤ levels + 1 ↔
      ∀ e ∈ entries, e.1.depth ≤ levels ∧ e.2.depth ≤ levels := by
  rw [depth, Nat.add_le_add_iff_right, depthOfEntries_le_iff]

/-! ### Plain documents -/

/-- All numbers in the document have 64 bits, and everything in it can be written. -/
inductive Plain : Document → Prop where
  | nil : Plain .nil
  | bool (b : Bool) : Plain (.bool b)
  | integer {n : Int} (hlow : -0x8000000000000000 ≤ n) (hhigh : n < 0x10000000000000000) :
    Plain (.integer n)
  | float (x : Binary64) : Plain (.float x)
  | text (s : String) : Plain (.text s)
  | bytes (bs : List UInt8) : Plain (.bytes bs)
  | list {items : List Document} (h : ∀ d ∈ items, Plain d) : Plain (.list items)
  | table {entries : List (Document × Document)} (hkeys : ∀ e ∈ entries, Plain e.1)
    (hvalues : ∀ e ∈ entries, Plain e.2) : Plain (.table entries)

theorem allKeepable_iff :
    allKeepable levels items = true ↔ ∀ d ∈ items, d.keepable levels = true := by
  induction items with
  | nil => simp [allKeepable]
  | cons d ds ih => simp [allKeepable, ih]

theorem entriesKeepable_iff :
    entriesKeepable levels entries = true ↔
      ∀ e ∈ entries, e.1.keepable levels = true ∧ e.2.keepable levels = true := by
  induction entries with
  | nil => simp [entriesKeepable]
  | cons e es ih =>
      obtain ⟨k, v⟩ := e
      simp [entriesKeepable, ih, and_assoc]

/-- **A plain document can be set aside exactly when it does not nest too deep.** -/
theorem Plain.keepable_iff {d : Document} (h : d.Plain) :
    d.keepable levels = true ↔ d.depth ≤ levels := by
  induction h generalizing levels with
  | nil | bool | integer | float | text | bytes => simp [keepable, depth]
  | @list items _ ih =>
      cases levels with
      | zero => simp [keepable, depth]
      | succ levels =>
          rw [depth_list_le_iff, keepable, Nat.add_sub_cancel, Bool.and_eq_true, allKeepable_iff]
          simp only [Nat.succ_pos, decide_true, true_and]
          exact forall₂_congr fun d hd => ih d hd
  | @table entries _ _ ihkeys ihvalues =>
      cases levels with
      | zero => simp [keepable, depth]
      | succ levels =>
          rw [depth_table_le_iff, keepable, Nat.add_sub_cancel, Bool.and_eq_true,
            entriesKeepable_iff]
          simp only [Nat.succ_pos, decide_true, true_and]
          exact forall₂_congr fun e he => and_congr (ihkeys e he) (ihvalues e he)

end ScatterGather.Document
