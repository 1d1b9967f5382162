/-!
# Bytes in hexadecimal

Two lower-case digits a byte when writing; either case when reading. `ofHex? (toHex b) = some b`.
-/

namespace ScatterGather.Text

/-- The digit of a number below sixteen. -/
def hexDigit (n : Nat) : Char :=
  if n < 10 then Char.ofNat ('0'.toNat + n) else Char.ofNat ('a'.toNat + (n - 10))

/-- The value of a hexadecimal digit of either case. -/
def hexValue? (c : Char) : Option Nat :=
  if c.isDigit then some (c.toNat - '0'.toNat)
  else if 'a' ≤ c ∧ c ≤ 'f' then some (c.toNat - 'a'.toNat + 10)
  else if 'A' ≤ c ∧ c ≤ 'F' then some (c.toNat - 'A'.toNat + 10)
  else none

/-- The two digits of a byte. -/
def hexPair (b : UInt8) : List Char := [hexDigit (b.toNat / 16), hexDigit (b.toNat % 16)]

/-- Writes bytes as lower-case hexadecimal digits. -/
def toHex (bytes : List UInt8) : String := String.ofList (bytes.flatMap hexPair)

/-- Reads pairs of hexadecimal digits; refuses a digit left alone and any other character. -/
def hexBytes? : List Char → Option (List UInt8)
  | [] => some []
  | [_] => none
  | a :: b :: rest => do
    let high ← hexValue? a
    let low ← hexValue? b
    let tail ← hexBytes? rest
    return UInt8.ofNat (16 * high + low) :: tail

/-- Reads bytes written in hexadecimal. -/
def ofHex? (s : String) : Option (List UInt8) := hexBytes? s.toList

/-- A number in lower-case hexadecimal without leading zeros. -/
def hexNumber (n : Nat) : String := String.ofList (Nat.toDigits 16 n)

end ScatterGather.Text
