import Mathlib.Tactic.Ring
import ScatterGather.MessagePack.Reader
import ScatterGather.MessagePack.Writer

/-!
# Heads of MessagePack values

What is written in front of a value is read back as what it says: a whole number, with or without a
sign (`headOf_bigEndian`, `headOf_negative`), and the length of what follows (`readHead?_textHead`,
`readHead?_bytesHead`, `readHead?_listHead`, `readHead?_tableHead`). All of them rest on the one
fact that the last bytes of a number, the most significant first, are read as the number again as
long as it fits into them (`ofBigEndian_bigEndian`).
-/

namespace ScatterGather.MessagePack

/-! ### Numbers as bytes -/

@[simp] theorem length_bigEndian (width n : Nat) : (bigEndian width n).length = width := by
  induction width with
  | zero => rfl
  | succ width ih => simp [bigEndian, ih]

/-- Bytes are read on top of what has been read before them. -/
theorem foldl_bigEndian (width n acc : Nat) :
    (bigEndian width n).foldl (fun n b => 256 * n + b.toNat) acc =
      acc * 256 ^ width + n % 256 ^ width := by
  induction width generalizing acc with
  | zero => simp [bigEndian, Nat.mod_one]
  | succ width ih =>
      have hbyte : (UInt8.ofNat (n / Nat.pow 256 width)).toNat = n / 256 ^ width % 256 := by simp
      rw [bigEndian, List.foldl_cons, ih, hbyte, Nat.mod_pow_succ, Nat.pow_succ]
      ring

/-- The last bytes of a number are read as the number, if it has no more. -/
theorem ofBigEndian_bigEndian {width n : Nat} (h : n < 256 ^ width) :
    ofBigEndian (bigEndian width n) = n := by
  unfold ofBigEndian
  rw [foldl_bigEndian, Nat.zero_mul, Nat.zero_add, Nat.mod_eq_of_lt h]

/-- Exactly the bytes in front are split off. -/
theorem split?_append {n : Nat} {front : List UInt8} (h : front.length = n) (rest : List UInt8) :
    split? n (front ++ rest) = some (front, rest) := by
  subst h
  simp [split?]

/-- Fewer bytes than asked for cannot be split off. -/
theorem split?_eq_none {n : Nat} {bytes : List UInt8} (h : bytes.length < n) :
    split? n bytes = none := by
  unfold split?
  rw [List.take_of_length_le (Nat.le_of_lt h)]
  exact if_neg (Nat.ne_of_lt h)

/-- The number behind a first byte is read, if it fits into its bytes. -/
theorem headOf_bigEndian (width : Nat) {n : Nat} (h : n < 256 ^ width) (make : Nat → Head)
    (rest : List UInt8) :
    headOf width make (bigEndian width n ++ rest) = some (make n, rest) := by
  unfold headOf readNat?
  rw [split?_append (length_bigEndian width n)]
  simp [ofBigEndian_bigEndian h]

/-! ### Heads of one byte -/

/-- The number of a byte. -/
theorem toNat_byte {n : Nat} (h : n < 0x100) : (UInt8.ofNat n).toNat = n :=
  UInt8.toNat_ofNat_of_lt' h

theorem readHead?_small {n : Nat} (h : n < 0x80) (rest : List UInt8) :
    readHead? (UInt8.ofNat n :: rest) = some (.scalar (.integer n), rest) := by
  unfold readHead?
  dsimp only
  rw [toNat_byte (by omega), if_pos h]

theorem readHead?_smallNegative {n : Nat} (h : n < 0x20) (rest : List UInt8) :
    readHead? (UInt8.ofNat (0xff - n) :: rest) = some (.scalar (.integer (.negSucc n)), rest) := by
  have hvalue : ((0xff - n : Nat) : Int) - 0x100 = .negSucc n := by omega
  unfold readHead?
  dsimp only
  rw [toNat_byte (by omega), ← hvalue, if_neg (by omega), if_neg (by omega), if_neg (by omega),
    if_neg (by omega), if_pos (by omega)]

theorem readHead?_smallTable {n : Nat} (h : n < 0x10) (rest : List UInt8) :
    readHead? (UInt8.ofNat (0x80 + n) :: rest) = some (.table n, rest) := by
  unfold readHead?
  dsimp only
  rw [toNat_byte (by omega), if_neg (by omega), if_pos (by omega), Nat.add_sub_cancel_left]

theorem readHead?_smallList {n : Nat} (h : n < 0x10) (rest : List UInt8) :
    readHead? (UInt8.ofNat (0x90 + n) :: rest) = some (.list n, rest) := by
  unfold readHead?
  dsimp only
  rw [toNat_byte (by omega), if_neg (by omega), if_neg (by omega), if_pos (by omega),
    Nat.add_sub_cancel_left]

theorem readHead?_smallText {n : Nat} (h : n < 0x20) (rest : List UInt8) :
    readHead? (UInt8.ofNat (0xa0 + n) :: rest) = some (.text n, rest) := by
  unfold readHead?
  dsimp only
  rw [toNat_byte (by omega), if_neg (by omega), if_neg (by omega), if_neg (by omega),
    if_pos (by omega), Nat.add_sub_cancel_left]

/-! ### Numbers -/

/-- The signed number of so many bytes that are those of a negative one. -/
theorem signed_complement {width n : Nat} (h : 2 * n + 2 ≤ 256 ^ width) :
    signed width (256 ^ width - 1 - n) = .negSucc n := by
  unfold signed
  simp only [Nat.pow_eq]
  generalize 256 ^ width = bound at h ⊢
  rw [if_neg (by omega), Int.negSucc_eq]
  omega

/-- A negative number behind its first byte is read back. -/
theorem headOf_negative (width : Nat) {n : Nat} (h : 2 * n + 2 ≤ 256 ^ width)
    (rest : List UInt8) :
    headOf width (fun n => .scalar (.integer (signed width n)))
        (bigEndian width (256 ^ width - 1 - n) ++ rest) =
      some (.scalar (.integer (.negSucc n)), rest) := by
  rw [headOf_bigEndian width (by omega), signed_complement h]

/-- A floating-point number is read back bit for bit. -/
theorem readHead?_float (x : Binary64) (rest : List UInt8) :
    readHead? (0xcb :: bigEndian 8 x.bits.toNat ++ rest) = some (.scalar (.float x), rest) := by
  have hbits : UInt64.ofNat x.bits.toNat = x.bits := UInt64.ofNat_toNat
  calc readHead? (0xcb :: bigEndian 8 x.bits.toNat ++ rest)
      = some (.scalar (.float ⟨UInt64.ofNat x.bits.toNat⟩), rest) :=
        headOf_bigEndian 8 x.bits.toNat_lt
          (fun bits => .scalar (.float ⟨UInt64.ofNat bits⟩)) rest
    _ = some (.scalar (.float x), rest) := by rw [hbits]

/-! ### Lengths -/

/-- The length of a text is read back. -/
theorem readHead?_textHead {n : Nat} (h : n < 256 ^ 4) (rest : List UInt8) :
    readHead? (textHead n ++ rest) = some (.text n, rest) := by
  unfold textHead
  split_ifs with h₁ h₂ h₃
  · exact readHead?_smallText h₁ rest
  · exact headOf_bigEndian 1 h₂ .text rest
  · exact headOf_bigEndian 2 h₃ .text rest
  · exact headOf_bigEndian 4 h .text rest

/-- The number of plain bytes is read back. -/
theorem readHead?_bytesHead {n : Nat} (h : n < 256 ^ 4) (rest : List UInt8) :
    readHead? (bytesHead n ++ rest) = some (.bytes n, rest) := by
  unfold bytesHead
  split_ifs with h₁ h₂
  · exact headOf_bigEndian 1 h₁ .bytes rest
  · exact headOf_bigEndian 2 h₂ .bytes rest
  · exact headOf_bigEndian 4 h .bytes rest

/-- The number of items of a list is read back. -/
theorem readHead?_listHead {n : Nat} (h : n < 256 ^ 4) (rest : List UInt8) :
    readHead? (listHead n ++ rest) = some (.list n, rest) := by
  unfold listHead
  split_ifs with h₁ h₂
  · exact readHead?_smallList h₁ rest
  · exact headOf_bigEndian 2 h₂ .list rest
  · exact headOf_bigEndian 4 h .list rest

/-- The number of entries of a table is read back. -/
theorem readHead?_tableHead {n : Nat} (h : n < 256 ^ 4) (rest : List UInt8) :
    readHead? (tableHead n ++ rest) = some (.table n, rest) := by
  unfold tableHead
  split_ifs with h₁ h₂
  · exact readHead?_smallTable h₁ rest
  · exact headOf_bigEndian 2 h₂ .table rest
  · exact headOf_bigEndian 4 h .table rest

/-! ### Something is written of everything -/

theorem natural_ne_nil (n : Nat) : natural n ≠ [] := by
  unfold natural
  split_ifs <;> exact List.cons_ne_nil _ _

theorem negative_ne_nil (n : Nat) : negative n ≠ [] := by
  unfold negative
  split_ifs <;> exact List.cons_ne_nil _ _

theorem integer_ne_nil (n : Int) : integer n ≠ [] := by
  cases n with
  | ofNat n => exact natural_ne_nil n
  | negSucc n => exact negative_ne_nil n

theorem textHead_ne_nil (n : Nat) : textHead n ≠ [] := by
  unfold textHead
  split_ifs <;> exact List.cons_ne_nil _ _

theorem bytesHead_ne_nil (n : Nat) : bytesHead n ≠ [] := by
  unfold bytesHead
  split_ifs <;> exact List.cons_ne_nil _ _

theorem listHead_ne_nil (n : Nat) : listHead n ≠ [] := by
  unfold listHead
  split_ifs <;> exact List.cons_ne_nil _ _

theorem tableHead_ne_nil (n : Nat) : tableHead n ≠ [] := by
  unfold tableHead
  split_ifs <;> exact List.cons_ne_nil _ _

end ScatterGather.MessagePack
