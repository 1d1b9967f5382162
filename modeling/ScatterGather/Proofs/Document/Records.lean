import ScatterGather.Document.Record
import ScatterGather.Proofs.Document.Nesting
import ScatterGather.Proofs.FirstError

/-!
# Written values are read back

Every reader gives back the value whose written form it reads. A record is read entry by entry:
`Fields.fromEntries_text` is the one step of it, and the record comes back once every entry has
found its field (`Fields.read_record`). A record of plain values is plain, and one level deeper than
they are.
-/

namespace ScatterGather

variable {α σ : Type}

/-! ### Values -/

namespace Document

theorem readNat_ofNat {n bound : Nat} (h : n < bound) : (ofNat n).readNat bound = .ok n := by
  unfold ofNat readNat
  simp [h]

@[simp] theorem readUInt16_ofNat (n : UInt16) : (ofNat n.toNat).readUInt16 = .ok n := by
  unfold readUInt16
  rw [readNat_ofNat n.toNat_lt]
  simp [bind, Except.bind, pure, Except.pure]

@[simp] theorem readUInt32_ofNat (n : UInt32) : (ofNat n.toNat).readUInt32 = .ok n := by
  unfold readUInt32
  rw [readNat_ofNat n.toNat_lt]
  simp [bind, Except.bind, pure, Except.pure]

@[simp] theorem readUInt64_ofNat (n : UInt64) : (ofNat n.toNat).readUInt64 = .ok n := by
  unfold readUInt64
  rw [readNat_ofNat n.toNat_lt]
  simp [bind, Except.bind, pure, Except.pure]

@[simp] theorem readBool_bool (b : Bool) : readBool (.bool b) = .ok b := rfl

@[simp] theorem readText_text (s : String) : readText (.text s) = .ok s := rfl

@[simp] theorem readOption_nil (read : Document → Except Fault α) :
    readOption read .nil = .ok none := rfl

/-- A value that is there is read as one that is there. -/
theorem readOption_eq_ok {read : Document → Except Fault α} {d : Document} {a : α}
    (hd : d ≠ .nil) (h : read d = .ok a) : readOption read d = .ok (some a) := by
  unfold readOption
  split
  · exact absurd rfl hd
  · rw [h]
    rfl

@[simp] theorem readOption_ofUInt16 (n : UInt16) :
    readOption readUInt16 (ofNat n.toNat) = .ok (some n) :=
  readOption_eq_ok nofun (readUInt16_ofNat n)

@[simp] theorem readOption_ofUInt32 (n : UInt32) :
    readOption readUInt32 (ofNat n.toNat) = .ok (some n) :=
  readOption_eq_ok nofun (readUInt32_ofNat n)

@[simp] theorem readOption_text (s : String) : readOption readText (.text s) = .ok (some s) := rfl

/-- A list is read back when each of its items is. -/
theorem readList_map {read : Document → Except Fault α} {write : α → Document} {as : List α}
    (h : ∀ a ∈ as, read (write a) = .ok a) : readList read (.list (as.map write)) = .ok as := by
  unfold readList
  rw [mapM_eq_ok, List.map_map]
  exact List.map_congr_left h

end Document

/-! ### Records -/

@[simp] theorem Field.of_name (name : String) (get : σ → Option α) (put : σ → α → σ)
    (read : Document → Except Fault α) : (Field.of name get put read).name = name := rfl

namespace Fields

variable {fields : List (Field σ)}

/-- An entry under a text fills the field of that name, and is skipped when there is none. -/
@[simp] theorem fromEntries_text (s : σ) (name : String) (d : Document)
    (rest : List (Document × Document)) :
    fromEntries fields s ((.text name, d) :: rest) =
      match fields.find? (·.name == name) with
      | some f => fillOnce f s d >>= fun s => fromEntries fields s rest
      | none => skip d >>= fun _ => fromEntries fields s rest := rfl

@[simp] theorem fromEntries_nil (s : σ) : fromEntries fields s [] = .ok s := rfl

@[simp] theorem read_table (s : σ) (entries : List (Document × Document)) :
    read fields s (.table entries) = fromEntries fields s entries := rfl

/-- A record is read entry by entry. -/
@[simp] theorem read_record (s : σ) (entries : List (String × Document)) :
    read fields s (.record entries) =
      fromEntries fields s (entries.map fun f => (.text f.1, f.2)) := rfl

@[simp] theorem fillOnce_of (name : String) (get : σ → Option α) (put : σ → α → σ)
    (readValue : Document → Except Fault α) (s : σ) (d : Document) :
    fillOnce (Field.of name get put readValue) s d =
      if (get s).isSome then .error .shape else put s <$> readValue d := rfl

@[simp] theorem need_some (a : α) : need (some a) = .ok a := rfl

end Fields

/-! ### Plain records -/

namespace Document

variable {fields : List (String × Document)} {levels : Nat}

/-- A record of plain values is plain. -/
theorem plain_record (h : ∀ f ∈ fields, f.2.Plain) : (record fields).Plain := by
  refine .table ?_ ?_
  · intro e he
    obtain ⟨f, -, rfl⟩ := List.mem_map.mp he
    exact .text f.1
  · intro e he
    obtain ⟨f, hf, rfl⟩ := List.mem_map.mp he
    exact h f hf

/-- The values of a plain record are plain. -/
theorem Plain.of_record (h : (record fields).Plain) : ∀ f ∈ fields, f.2.Plain := by
  intro f hf
  cases h with
  | table _ hvalues => exact hvalues (.text f.1, f.2) (List.mem_map_of_mem hf)

/-- A record nests one level deeper than its values. -/
theorem depth_record_le_iff :
    (record fields).depth ≤ levels + 1 ↔ ∀ f ∈ fields, f.2.depth ≤ levels := by
  rw [record, depth_table_le_iff, List.forall_mem_map]
  exact forall₂_congr fun f _ => and_iff_right (Nat.zero_le levels)

/-- The values of a record nest one level less than the record. -/
theorem depth_le_of_record (h : (record fields).depth ≤ levels) :
    ∀ f ∈ fields, f.2.depth ≤ levels - 1 := by
  cases levels with
  | zero => exact absurd h (Nat.not_succ_le_zero _)
  | succ levels => exact depth_record_le_iff.mp h

theorem plain_ofNat {n : Nat} (h : n < 0x10000000000000000) : (ofNat n).Plain :=
  .integer (by omega) (by omega)

/-- A list is plain when what is written of each of its items is. -/
theorem plain_list_map {write : α → Document} {as : List α} (h : ∀ a ∈ as, (write a).Plain) :
    (list (as.map write)).Plain := by
  refine .list ?_
  intro d hd
  obtain ⟨a, ha, rfl⟩ := List.mem_map.mp hd
  exact h a ha

end Document

end ScatterGather
