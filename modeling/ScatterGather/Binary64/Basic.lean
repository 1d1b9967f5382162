/-!
# Binary floating-point numbers of 64 bits

A number is its 64 bits: a sign, an exponent field of eleven bits and a fraction of fifty-two. All
arithmetic here is on the exact value `significand * 2 ^ power` of a finite number, followed by one
rounding to the nearest number, ties to the even significand (`ofRatio`). So equal bits mean equal
numbers and no operation depends on the machine.
-/

namespace ScatterGather

/-- A binary floating-point number of 64 bits, given by its bits. -/
structure Binary64 where
  /-- Sign, exponent field and fraction, from the most significant bit on. -/
  bits : UInt64
deriving DecidableEq, Inhabited, Repr

namespace Binary64

/-- The number whose only bit is that of the sign. -/
def signBit : Nat := 1 <<< 63

/-- The least significand that fills its fifty-three bits. -/
def hiddenBit : Nat := 1 <<< 52

/-- The sign bit is set. -/
def isNegative (x : Binary64) : Bool := x.bits.toNat >>> 63 == 1

/-- The eleven bits of the exponent field. -/
def exponentField (x : Binary64) : Nat := (x.bits.toNat >>> 52) % 2048

/-- The fifty-two bits of the fraction. -/
def fraction (x : Binary64) : Nat := x.bits.toNat % hiddenBit

/-- Neither an infinity nor a NaN. -/
def isFinite (x : Binary64) : Bool := x.exponentField != 2047

/-- The number put together from its three fields. -/
def ofFields (negative : Bool) (exponentField fraction : Nat) : Binary64 :=
  ⟨UInt64.ofNat ((if negative then signBit else 0) + exponentField * hiddenBit + fraction)⟩

/-- The whole number `m` with `|x| = m * 2 ^ power x` for a finite `x`. -/
def significand (x : Binary64) : Nat :=
  if x.exponentField = 0 then x.fraction else hiddenBit + x.fraction

/-- The exponent that goes with `significand`. -/
def power (x : Binary64) : Int := (max x.exponentField 1 : Nat) - 1075

/-- A zero of the given sign. -/
def zero (negative : Bool) : Binary64 := ofFields negative 0 0

/-- An infinity of the given sign. -/
def infinity (negative : Bool) : Binary64 := ofFields negative 2047 0

/-- A finite number that is zero, of either sign. -/
def isZero (x : Binary64) : Bool := x.bits.toNat % signBit == 0

/-- The same magnitude with the other sign. -/
def negate (x : Binary64) : Binary64 := ofFields (!x.isNegative) x.exponentField x.fraction

/-- `n / d` rounded to the nearest whole number, a half to the even neighbour. -/
def roundDiv (n d : Nat) : Nat :=
  let q := n / d
  let r := n % d
  if 2 * r < d then q
  else if d < 2 * r then q + 1
  else q + q % 2

/-- The fraction `n * 2 ^ p / d` as a numerator and a denominator. -/
def scaled (n d : Nat) (p : Int) : Nat × Nat :=
  if 0 ≤ p then (n <<< p.toNat, d) else (n, d <<< (-p).toNat)

/-- The greatest `e` with `2 ^ e ≤ n / d`, for positive `n` and `d`. -/
def floorLog2 (n d : Nat) : Int :=
  let e : Int := (n.log2 : Int) - d.log2
  let (a, b) := scaled n d (-e)
  if a < b then e - 1 else e

/-- The number nearest to `n / d`, ties to even, an infinity when the magnitude is too great. -/
def ofRatio (negative : Bool) (n d : Nat) : Binary64 :=
  if n = 0 ∨ d = 0 then zero negative
  else
    let p : Int := max (floorLog2 n d - 52) (-1074)
    let (a, b) := scaled n d (-p)
    let m := roundDiv a b
    let (m, p) := if m = 2 * hiddenBit then (hiddenBit, p + 1) else (m, p)
    if p > 971 then infinity negative
    else if m < hiddenBit then ofFields negative 0 m
    else ofFields negative (p + 1075).toNat (m - hiddenBit)

/-- The number nearest to a whole number. -/
def ofNat (n : Nat) : Binary64 := ofRatio false n 1

/-- The number nearest to `c * 10 ^ k`; exponents far out of range need no great powers. -/
def ofDecimal (negative : Bool) (c : Nat) (k : Int) : Binary64 :=
  if c = 0 then zero negative
  else if 400 < k then infinity negative
  else if k + (c.log2 : Int) < -1200 then zero negative
  else if 0 ≤ k then ofRatio negative (c * Nat.pow 10 k.toNat) 1
  else ofRatio negative c (Nat.pow 10 (-k).toNat)

/-- The product of two finite numbers, rounded once. -/
def mul (x y : Binary64) : Binary64 :=
  let (a, b) := scaled (x.significand * y.significand) 1 (x.power + y.power)
  ofRatio (x.isNegative != y.isNegative) a b

/-- The quotient of two finite numbers, rounded once; the divisor is not zero. -/
def div (x y : Binary64) : Binary64 :=
  let (a, b) := scaled x.significand y.significand (x.power - y.power)
  ofRatio (x.isNegative != y.isNegative) a b

/-- The number of 64 bits with the value of a number of 32 bits, given by its bits. An infinity and
a NaN stay what they are. -/
def ofBinary32 (bits : Nat) : Binary64 :=
  let negative := (bits >>> 31) % 2 == 1
  let field := (bits >>> 23) % 256
  let fraction := bits % (1 <<< 23)
  if field = 255 then ofFields negative 2047 (fraction <<< 29)
  else
    let m := if field = 0 then fraction else (1 <<< 23) + fraction
    let (a, b) := scaled m 1 ((max field 1 : Nat) - 150)
    ofRatio negative a b

end Binary64

end ScatterGather
