import ScatterGather.Proofs.Document.Nesting
import ScatterGather.Proofs.MessagePack.Heads

/-!
# The bytes that say a document

There are many ways to say a document: a whole number may be written in any width that it fits
into, with or without a sign (`IntegerForm`). `Spells` relates a document to all the bytes that say
it. They are read as the document when it nests no deeper than the reader goes, and not at all
otherwise; what is behind them is left (`Spells.readWithin?_append`).
-/

namespace ScatterGather.MessagePack

/-! ### Whole numbers -/

/-- The first bytes of the forms without a sign, with their widths. -/
def unsignedForms : List (UInt8 × Nat) := [(0xcc, 1), (0xcd, 2), (0xce, 4), (0xcf, 8)]

/-- The first bytes of the forms with a sign, with their widths. -/
def signedForms : List (UInt8 × Nat) := [(0xd0, 1), (0xd1, 2), (0xd2, 4), (0xd3, 8)]

/-- The forms of a whole number: a single byte, or any width that it fits into. -/
inductive IntegerForm : Int → List UInt8 → Prop where
  | small {n : Nat} (h : n < 0x80) : IntegerForm n [UInt8.ofNat n]
  | smallNegative {n : Nat} (h : n < 0x20) : IntegerForm (.negSucc n) [UInt8.ofNat (0xff - n)]
  | unsigned {n width : Nat} {first : UInt8} (hform : (first, width) ∈ unsignedForms)
    (h : n < 256 ^ width) : IntegerForm n (first :: bigEndian width n)
  | signed {n width : Nat} {first : UInt8} (hform : (first, width) ∈ signedForms)
    (h : 2 * n < 256 ^ width) : IntegerForm n (first :: bigEndian width n)
  | negative {n width : Nat} {first : UInt8} (hform : (first, width) ∈ signedForms)
    (h : 2 * n + 2 ≤ 256 ^ width) :
    IntegerForm (.negSucc n) (first :: bigEndian width (256 ^ width - 1 - n))

/-- The signed number of so many bytes that are those of one that is not negative. -/
theorem signed_of_lt {width n : Nat} (h : 2 * n < 256 ^ width) : signed width n = n :=
  if_pos h

/-- The number behind the first byte of a form without a sign. -/
theorem readHead?_unsigned {first : UInt8} {width : Nat} (h : (first, width) ∈ unsignedForms)
    (bytes : List UInt8) :
    readHead? (first :: bytes) = headOf width (fun n => .scalar (.integer n)) bytes := by
  simp only [unsignedForms, List.mem_cons, Prod.mk.injEq, List.not_mem_nil, or_false] at h
  rcases h with ⟨rfl, rfl⟩ | ⟨rfl, rfl⟩ | ⟨rfl, rfl⟩ | ⟨rfl, rfl⟩ <;> rfl

/-- The number behind the first byte of a form with a sign. -/
theorem readHead?_signed {first : UInt8} {width : Nat} (h : (first, width) ∈ signedForms)
    (bytes : List UInt8) :
    readHead? (first :: bytes) =
      headOf width (fun n => .scalar (.integer (signed width n))) bytes := by
  simp only [signedForms, List.mem_cons, Prod.mk.injEq, List.not_mem_nil, or_false] at h
  rcases h with ⟨rfl, rfl⟩ | ⟨rfl, rfl⟩ | ⟨rfl, rfl⟩ | ⟨rfl, rfl⟩ <;> rfl

/-- Every form of a whole number is read as the number. -/
theorem IntegerForm.readHead?_append {n : Int} {bytes : List UInt8} (h : IntegerForm n bytes)
    (rest : List UInt8) : readHead? (bytes ++ rest) = some (.scalar (.integer n), rest) := by
  cases h with
  | small h => exact readHead?_small h rest
  | smallNegative h => exact readHead?_smallNegative h rest
  | unsigned hform h =>
      rw [List.cons_append, readHead?_unsigned hform, headOf_bigEndian _ h]
  | signed hform h =>
      rw [List.cons_append, readHead?_signed hform, headOf_bigEndian _ (by omega), signed_of_lt h]
  | negative hform h => rw [List.cons_append, readHead?_signed hform, headOf_negative _ h]

/-- The form the writer chooses, the shortest, is one of them. -/
theorem integerForm_integer {n : Int} (hlow : -0x8000000000000000 ≤ n)
    (hhigh : n < 0x10000000000000000) : IntegerForm n (integer n) := by
  cases n with
  | ofNat n =>
      unfold integer natural
      dsimp only
      split_ifs with h₁ h₂ h₃ h₄
      · exact .small h₁
      · exact .unsigned (by simp [unsignedForms]) h₂
      · exact .unsigned (by simp [unsignedForms]) h₃
      · exact .unsigned (by simp [unsignedForms]) h₄
      · exact .unsigned (by simp [unsignedForms]) (Int.ofNat_lt.mp hhigh)
  | negSucc n =>
      unfold integer negative
      dsimp only
      split_ifs with h₁ h₂ h₃ h₄
      · exact .smallNegative h₁
      · exact .negative (by simp [signedForms]) (by omega)
      · exact .negative (by simp [signedForms]) (by omega)
      · exact .negative (by simp [signedForms]) (by omega)
      · exact .negative (by simp [signedForms]) (by omega)

/-! ### Documents -/

mutual

/-- The bytes say the document. -/
inductive Spells : Document → List UInt8 → Prop where
  | nil : Spells .nil [0xc0]
  | bool (b : Bool) : Spells (.bool b) [if b then 0xc3 else 0xc2]
  | integer {n : Int} {bytes : List UInt8} (h : IntegerForm n bytes) : Spells (.integer n) bytes
  | float (x : Binary64) : Spells (.float x) (0xcb :: bigEndian 8 x.bits.toNat)
  | text (s : String) (h : s.utf8ByteSize < 256 ^ 4) :
    Spells (.text s) (textHead s.utf8ByteSize ++ s.toUTF8.data.toList)
  | bytes (bs : List UInt8) (h : bs.length < 256 ^ 4) :
    Spells (.bytes bs) (bytesHead bs.length ++ bs)
  | list {items : List Document} {body : List UInt8} (hcount : items.length < 256 ^ 4)
    (h : SpellsItems items body) : Spells (.list items) (listHead items.length ++ body)
  | table {entries : List (Document × Document)} {body : List UInt8}
    (hcount : entries.length < 256 ^ 4) (h : SpellsEntries entries body) :
    Spells (.table entries) (tableHead entries.length ++ body)

/-- The bytes say the documents one behind the other. -/
inductive SpellsItems : List Document → List UInt8 → Prop where
  | nil : SpellsItems [] []
  | cons {d : Document} {ds : List Document} {bytes body : List UInt8} (h : Spells d bytes)
    (hs : SpellsItems ds body) : SpellsItems (d :: ds) (bytes ++ body)

/-- The bytes say the keys, each with its value behind it. -/
inductive SpellsEntries : List (Document × Document) → List UInt8 → Prop where
  | nil : SpellsEntries [] []
  | cons {k v : Document} {es : List (Document × Document)} {kbytes vbytes body : List UInt8}
    (hk : Spells k kbytes) (hv : Spells v vbytes) (hs : SpellsEntries es body) :
    SpellsEntries ((k, v) :: es) (kbytes ++ vbytes ++ body)

end

/-! ### Reading -/

/-- The bytes of a text are read as the text. -/
theorem textOrBytes_toUTF8 (s : String) : textOrBytes s.toUTF8.data.toList = .text s := by
  have hs : Document.textOfBytes? s.toUTF8.data.toList = some s := by
    unfold Document.textOfBytes? String.fromUTF8?
    exact dif_pos s.isValidUTF8
  rw [textOrBytes, hs]

/-- One more value in front of others that are read. -/
theorem readMany?_cons {α : Type} {readOne : List UInt8 → Option (α × List UInt8)} {count : Nat}
    {a : α} {as : List α} {bytes body rest : List UInt8} {good goods : Prop} [Decidable good]
    [Decidable goods]
    (ha : readOne (bytes ++ (body ++ rest)) = if good then some (a, body ++ rest) else none)
    (has : readMany? readOne count (body ++ rest) = if goods then some (as, rest) else none) :
    readMany? readOne (count + 1) (bytes ++ body ++ rest) =
      if good ∧ goods then some (a :: as, rest) else none := by
  rw [List.append_assoc, readMany?, ha]
  by_cases hgood : good
  · rw [if_pos hgood]
    simp only [Option.bind_eq_bind, Option.bind_some, has, hgood, true_and]
    split <;> rfl
  · simp [hgood]

/-- A key and its value are read back when both are, and neither otherwise. -/
theorem readPair?_append {readOne : List UInt8 → Option (Document × List UInt8)} {levels : Nat}
    {k v : Document} {kbytes vbytes : List UInt8}
    (hk : ∀ rest, readOne (kbytes ++ rest) = if k.depth ≤ levels then some (k, rest) else none)
    (hv : ∀ rest, readOne (vbytes ++ rest) = if v.depth ≤ levels then some (v, rest) else none)
    (rest : List UInt8) :
    readPair? readOne (kbytes ++ vbytes ++ rest) =
      if k.depth ≤ levels ∧ v.depth ≤ levels then some ((k, v), rest) else none := by
  unfold readPair?
  rw [List.append_assoc, hk]
  by_cases hkd : k.depth ≤ levels
  · rw [if_pos hkd]
    simp only [Option.bind_eq_bind, Option.bind_some, hv, hkd, true_and]
    split <;> rfl
  · simp [hkd]

/-- What a head announces is read behind it. -/
theorem readWithin?_append {head : List UInt8} {announced : Head}
    (h : ∀ rest, readHead? (head ++ rest) = some (announced, rest)) (levels : Nat)
    (bytes : List UInt8) :
    readWithin? levels (head ++ bytes) =
      readBody? (match levels with | 0 => none | levels + 1 => some (readWithin? levels))
        announced bytes := by
  cases levels with
  | zero => simp [readWithin?, h]
  | succ levels => simp [readWithin?, h]

/-- A whole value is read at every level. -/
theorem readWithin?_scalar {head : List UInt8} {d : Document} (hdepth : d.depth = 0)
    (h : ∀ rest, readHead? (head ++ rest) = some (.scalar d, rest)) (levels : Nat)
    (rest : List UInt8) :
    readWithin? levels (head ++ rest) = if d.depth ≤ levels then some (d, rest) else none := by
  rw [readWithin?_append h, readBody?, if_pos (hdepth ▸ Nat.zero_le levels)]

mutual

/-- **The bytes of a document are read as the document** when it nests no deeper than the reader
goes, and not at all otherwise. -/
theorem Spells.readWithin?_append : ∀ {d : Document} {bytes : List UInt8}, Spells d bytes →
    ∀ (levels : Nat) (rest : List UInt8),
      readWithin? levels (bytes ++ rest) = if d.depth ≤ levels then some (d, rest) else none
  | _, _, .nil, levels, rest => readWithin?_scalar rfl (fun _ => rfl) levels rest
  | _, _, .bool true, levels, rest => readWithin?_scalar rfl (fun _ => rfl) levels rest
  | _, _, .bool false, levels, rest => readWithin?_scalar rfl (fun _ => rfl) levels rest
  | _, _, .integer h, levels, rest => readWithin?_scalar rfl h.readHead?_append levels rest
  | _, _, .float x, levels, rest => readWithin?_scalar rfl (readHead?_float x) levels rest
  | _, _, .text s h, levels, rest => by
      have hlen : s.toUTF8.data.toList.length = s.utf8ByteSize := rfl
      rw [List.append_assoc, MessagePack.readWithin?_append (readHead?_textHead h), readBody?,
        split?_append hlen]
      show some (textOrBytes s.toUTF8.data.toList, rest) = _
      rw [textOrBytes_toUTF8]
      rfl
  | _, _, .bytes bs h, levels, rest => by
      rw [List.append_assoc, MessagePack.readWithin?_append (readHead?_bytesHead h), readBody?,
        split?_append rfl]
      rfl
  | _, _, .list hcount h, 0, rest => by
      rw [List.append_assoc, MessagePack.readWithin?_append (readHead?_listHead hcount)]
      rfl
  | _, _, .list hcount h, levels + 1, rest => by
      rw [List.append_assoc, MessagePack.readWithin?_append (readHead?_listHead hcount)]
      simp only [readBody?, Option.bind_eq_bind, Option.bind_some, h.readMany?_append levels rest,
        Document.depth_list_le_iff]
      split <;> rfl
  | _, _, .table hcount h, 0, rest => by
      rw [List.append_assoc, MessagePack.readWithin?_append (readHead?_tableHead hcount)]
      rfl
  | _, _, .table hcount h, levels + 1, rest => by
      rw [List.append_assoc, MessagePack.readWithin?_append (readHead?_tableHead hcount)]
      simp only [readBody?, Option.bind_eq_bind, Option.bind_some, h.readMany?_append levels rest,
        Document.depth_table_le_iff]
      split <;> rfl

theorem SpellsItems.readMany?_append : ∀ {ds : List Document} {body : List UInt8},
    SpellsItems ds body → ∀ (levels : Nat) (rest : List UInt8),
      readMany? (readWithin? levels) ds.length (body ++ rest) =
        if ∀ d ∈ ds, d.depth ≤ levels then some (ds, rest) else none
  | _, _, .nil, levels, rest => by simp [readMany?]
  | _, _, .cons h hs, levels, rest => by
      rw [List.length_cons, readMany?_cons (h.readWithin?_append levels _)
        (hs.readMany?_append levels rest)]
      refine if_congr ?_ rfl rfl
      rw [List.forall_mem_cons]

theorem SpellsEntries.readMany?_append : ∀ {es : List (Document × Document)} {body : List UInt8},
    SpellsEntries es body → ∀ (levels : Nat) (rest : List UInt8),
      readMany? (readPair? (readWithin? levels)) es.length (body ++ rest) =
        if ∀ e ∈ es, e.1.depth ≤ levels ∧ e.2.depth ≤ levels then some (es, rest) else none
  | _, _, .nil, levels, rest => by simp [readMany?]
  | _, _, .cons hk hv hs, levels, rest => by
      rw [List.length_cons, readMany?_cons
        (readPair?_append (hk.readWithin?_append levels) (hv.readWithin?_append levels) _)
        (hs.readMany?_append levels rest)]
      refine if_congr ?_ rfl rfl
      rw [List.forall_mem_cons]

end

end ScatterGather.MessagePack
