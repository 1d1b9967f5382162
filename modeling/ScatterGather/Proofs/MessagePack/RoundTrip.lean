import ScatterGather.Proofs.MessagePack.Spellings

/-!
# Documents survive MessagePack

What is written of a plain document says the document (`spells_octets`), so it is read back, and
nothing behind it is touched, as long as it nests no deeper than the reader goes; a document that
nests deeper is not read at all (`readWithin?_octets`). The lengths that are written in front of
texts, lists and tables have four bytes at most, so the bytes of the document must be fewer than
`256 ^ 4`.
-/

namespace ScatterGather.MessagePack

/-! ### The bytes of a document -/

/-- The bytes of a document as a list. -/
def octets (d : Document) : List UInt8 := (write d).data.toList

theorem length_octets (d : Document) : (octets d).length = (write d).size := rfl

/-- Bytes are put behind those that are there. -/
@[simp] theorem toList_putBytes (out : ByteArray) (bytes : List UInt8) :
    (putBytes out bytes).data.toList = out.data.toList ++ bytes := by
  unfold putBytes
  induction bytes generalizing out with
  | nil => simp
  | cons b bytes ih => simp [ih]

mutual

/-- A document is put behind the bytes that are there. -/
theorem toList_put (out : ByteArray) :
    ∀ d, (put out d).data.toList = out.data.toList ++ octets d
  | .nil | .foreign | .unreadable | .broken => by simp [octets, write, put]
  | .bool b => by simp [octets, write, put]
  | .integer n => by simp [octets, write, put]
  | .float x => by simp [octets, write, put]
  | .text s => by simp [octets, write, put]
  | .bytes bs => by simp [octets, write, put]
  | .list items => by simp [octets, write, put, toList_putAll _ items]
  | .table entries => by simp [octets, write, put, toList_putEntries _ entries]

/-- Items are put one behind the other. -/
theorem toList_putAll (out : ByteArray) :
    ∀ items, (putAll out items).data.toList = out.data.toList ++ items.flatMap octets
  | [] => by simp [putAll]
  | d :: ds => by simp [putAll, toList_putAll _ ds, toList_put out d]

/-- Keys and values are put one behind the other. -/
theorem toList_putEntries (out : ByteArray) :
    ∀ entries, (putEntries out entries).data.toList =
      out.data.toList ++ entries.flatMap fun e => octets e.1 ++ octets e.2
  | [] => by simp [putEntries]
  | (k, v) :: es => by
      simp [putEntries, toList_putEntries _ es, toList_put _ v, toList_put out k]

end

theorem octets_nil : octets .nil = [0xc0] := rfl

theorem octets_bool (b : Bool) : octets (.bool b) = [if b then 0xc3 else 0xc2] := by
  simp [octets, write, put]

theorem octets_integer (n : Int) : octets (.integer n) = integer n := by
  simp [octets, write, put]

theorem octets_float (x : Binary64) : octets (.float x) = 0xcb :: bigEndian 8 x.bits.toNat := by
  simp [octets, write, put]

theorem octets_text (s : String) :
    octets (.text s) = textHead s.utf8ByteSize ++ s.toUTF8.data.toList := by
  simp [octets, write, put]

theorem octets_bytes (bs : List UInt8) : octets (.bytes bs) = bytesHead bs.length ++ bs := by
  simp [octets, write, put]

theorem octets_list (items : List Document) :
    octets (.list items) = listHead items.length ++ items.flatMap octets := by
  simp [octets, write, put, toList_putAll]

theorem octets_table (entries : List (Document × Document)) :
    octets (.table entries) =
      tableHead entries.length ++ entries.flatMap fun e => octets e.1 ++ octets e.2 := by
  simp [octets, write, put, toList_putEntries]

/-! ### Lengths -/

/-- Something is written of every document. -/
theorem octets_ne_nil (d : Document) : octets d ≠ [] := by
  cases d with
  | nil | foreign | unreadable | broken => exact List.cons_ne_nil _ _
  | bool b =>
      rw [octets_bool]
      exact List.cons_ne_nil _ _
  | integer n =>
      rw [octets_integer]
      exact integer_ne_nil n
  | float x =>
      rw [octets_float]
      exact List.cons_ne_nil _ _
  | text s =>
      rw [octets_text]
      exact List.append_ne_nil_of_left_ne_nil (textHead_ne_nil _) _
  | bytes bs =>
      rw [octets_bytes]
      exact List.append_ne_nil_of_left_ne_nil (bytesHead_ne_nil _) _
  | list items =>
      rw [octets_list]
      exact List.append_ne_nil_of_left_ne_nil (listHead_ne_nil _) _
  | table entries =>
      rw [octets_table]
      exact List.append_ne_nil_of_left_ne_nil (tableHead_ne_nil _) _

/-- The bytes of a part are among those of the whole. -/
theorem length_le_flatMap {α : Type} {f : α → List UInt8} {as : List α} {a : α} (h : a ∈ as) :
    (f a).length ≤ (as.flatMap f).length := by
  rw [List.flatMap_def]
  exact (List.sublist_flatten_of_mem (List.mem_map_of_mem h)).length_le

/-- There are at least as many bytes as parts. -/
theorem length_le_length_flatMap {α : Type} {f : α → List UInt8} (as : List α)
    (h : ∀ a, f a ≠ []) : as.length ≤ (as.flatMap f).length := by
  induction as with
  | nil => simp
  | cons a as ih =>
      have hpos := List.length_pos_iff.mpr (h a)
      simp only [List.flatMap_cons, List.length_append, List.length_cons]
      omega

/-! ### Reading back -/

theorem spellsItems_flatMap {items : List Document} (h : ∀ d ∈ items, Spells d (octets d)) :
    SpellsItems items (items.flatMap octets) := by
  induction items with
  | nil => exact .nil
  | cons d ds ih =>
      obtain ⟨hd, hds⟩ := List.forall_mem_cons.mp h
      exact .cons hd (ih hds)

theorem spellsEntries_flatMap {entries : List (Document × Document)}
    (h : ∀ e ∈ entries, Spells e.1 (octets e.1) ∧ Spells e.2 (octets e.2)) :
    SpellsEntries entries (entries.flatMap fun e => octets e.1 ++ octets e.2) := by
  induction entries with
  | nil => exact .nil
  | cons e es ih =>
      obtain ⟨⟨hk, hv⟩, hes⟩ := List.forall_mem_cons.mp h
      exact .cons hk hv (ih hes)

/-- **What is written of a plain document says it**, as far as its lengths can be written. -/
theorem spells_octets {d : Document} (h : d.Plain) (hsize : (octets d).length < 256 ^ 4) :
    Spells d (octets d) := by
  induction h with
  | nil => exact .nil
  | bool b =>
      rw [octets_bool]
      exact .bool b
  | integer hlow hhigh =>
      rw [octets_integer]
      exact .integer (integerForm_integer hlow hhigh)
  | float x =>
      rw [octets_float]
      exact .float x
  | text s =>
      rw [octets_text] at hsize ⊢
      have hlen : s.toUTF8.data.toList.length = s.utf8ByteSize := rfl
      rw [List.length_append, hlen] at hsize
      exact .text s (by omega)
  | bytes bs =>
      rw [octets_bytes] at hsize ⊢
      rw [List.length_append] at hsize
      exact .bytes bs (by omega)
  | @list items _ ih =>
      rw [octets_list] at hsize ⊢
      rw [List.length_append] at hsize
      have hcount := length_le_length_flatMap items octets_ne_nil
      refine .list (by omega) (spellsItems_flatMap fun d hd => ih d hd ?_)
      have := length_le_flatMap (f := octets) hd
      omega
  | @table entries _ _ ihkeys ihvalues =>
      rw [octets_table] at hsize ⊢
      rw [List.length_append] at hsize
      have hcount := length_le_length_flatMap (f := fun e => octets e.1 ++ octets e.2) entries
        fun e => List.append_ne_nil_of_left_ne_nil (octets_ne_nil e.1) _
      refine .table (by omega) (spellsEntries_flatMap fun e he => ?_)
      have hle := length_le_flatMap (f := fun e => octets e.1 ++ octets e.2) he
      rw [List.length_append] at hle
      exact ⟨ihkeys e he (by omega), ihvalues e he (by omega)⟩

/-- **A plain document is read back when it does not nest too deep, and not at all otherwise.**
What is behind its bytes is left. -/
theorem readWithin?_octets {d : Document} (h : d.Plain) (hsize : (octets d).length < 256 ^ 4)
    (levels : Nat) (rest : List UInt8) :
    readWithin? levels (octets d ++ rest) =
      if d.depth ≤ levels then some (d, rest) else none :=
  (spells_octets h hsize).readWithin?_append levels rest

/-- A plain document of fewer than `256 ^ 4` bytes is read back if it is no deeper than the limit,
and is refused otherwise. -/
theorem read?_octets {d : Document} (h : d.Plain) (hsize : (octets d).length < 256 ^ 4) :
    read? (octets d) = if d.depth ≤ nestingLimit then some (d, []) else none := by
  unfold read?
  have hread := readWithin?_octets h hsize nestingLimit []
  rwa [List.append_nil] at hread

end ScatterGather.MessagePack
