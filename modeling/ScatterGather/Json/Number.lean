import ScatterGather.Document.Basic

/-!
# The value of a JSON number

A number without point and exponent that fits 64 bits, signed or unsigned, is that whole number;
`-0` and every other number is a floating-point one. Of the digits only as many are kept as fit 64
bits without sign; the others count as places. The kept digits, rounded once, are then multiplied
or divided by the floating-point power of ten, which rounds a second time, so the last digit of a
long fraction may come out differently from a single rounding.
-/

namespace ScatterGather.Json

/-- The greatest number of digits kept, as a value. -/
def significandLimit : Nat := UInt64.size

/-- Digits kept so far and the power of ten they stand for. -/
structure Significand where
  value : Nat
  exponent : Int

/-- Keeps digits before the point: once one does not fit, it and the rest only count. -/
def Significand.whole : Significand → List Char → Significand
  | s, [] => s
  | s, c :: cs =>
    let n := 10 * s.value + Text.digitValue c
    if n < significandLimit then Significand.whole ⟨n, s.exponent⟩ cs
    else ⟨s.value, s.exponent + (cs.length + 1)⟩

/-- Keeps digits behind the point: once one does not fit, it and the rest are dropped. -/
def Significand.behindPoint : Significand → List Char → Significand
  | s, [] => s
  | s, c :: cs =>
    let n := 10 * s.value + Text.digitValue c
    if n < significandLimit then Significand.behindPoint ⟨n, s.exponent - 1⟩ cs else s

/-- Scales a number by a power of ten; `none` when the result is out of range. An exponent below
the least power of ten is brought up in steps, which end at zero. -/
def scale : Nat → Binary64 → Int → Option Binary64
  | 0, x, _ => some x
  | fuel + 1, x, e =>
    if e.natAbs ≤ 308 then
      if 0 ≤ e then
        let y := x.mul (Binary64.ofDecimal false 1 e)
        if y.isFinite then some y else none
      else some (x.div (Binary64.ofDecimal false 1 (-e)))
    else if x.isZero then some x
    else if 0 ≤ e then none
    else scale fuel (x.div (Binary64.ofDecimal false 1 308)) (e + 308)

/-- A JSON number taken apart: sign, digits before and behind the point, and exponent. -/
structure Numeral where
  negative : Bool
  whole : List Char
  fraction : Option (List Char)
  exponent : Option Int

/-- The document of a number; one out of range cannot be read. -/
def Numeral.document (n : Numeral) : Document :=
  let s := Significand.whole ⟨0, 0⟩ n.whole
  match n.fraction, n.exponent with
  | none, none =>
    if s.exponent ≠ 0 then floating s
    else if !n.negative then .integer s.value
    else if s.value = 0 ∨ 0x8000000000000000 < s.value then .float (Binary64.ofNat s.value).negate
    else .integer (-s.value)
  | fraction, exponent =>
    let s := s.behindPoint (fraction.getD [])
    floating ⟨s.value, s.exponent + exponent.getD 0⟩
where
  /-- The floating-point number of kept digits. -/
  floating (s : Significand) : Document :=
    match scale 4 (Binary64.ofNat s.value) s.exponent with
    | some x => .float (if n.negative then x.negate else x)
    | none => .unreadable

end ScatterGather.Json
