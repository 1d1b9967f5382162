import ScatterGather.Binary64.Basic

/-!
# The shortest decimal that reads back

`shortest x` gives the digits of a decimal `digits * 10 ^ exponent` that rounds to `x`, with as few
digits as possible and, among those, nearest to `x`. For each number of digits from one to
seventeen it tests the two neighbours of `x` on that decimal grid, in whole numbers. Two ways of
writing such a decimal follow: `compact` with an exponent outside a middle range, and `positional`
without one.
-/

namespace ScatterGather.Binary64

/-- A decimal `digits * 10 ^ exponent`. -/
structure Decimal where
  digits : Nat
  exponent : Int
deriving DecidableEq, Repr

/-- The greatest `e` with `10 ^ e ≤ n / d`, found from the estimate by at most two corrections. -/
def floorLog10 (n d : Nat) : Int :=
  let estimate : Int := (floorLog2 n d) * 30103 / 100000
  let atMost (e : Int) : Bool :=
    if 0 ≤ e then d * Nat.pow 10 e.toNat ≤ n else d ≤ n * Nat.pow 10 (-e).toNat
  if atMost (estimate + 1) then estimate + 1
  else if atMost estimate then estimate
  else estimate - 1

/-- `n / d` divided by `10 ^ k`, as a numerator and a denominator. -/
def overPowerOfTen (n d : Nat) (k : Int) : Nat × Nat :=
  if 0 ≤ k then (n, d * Nat.pow 10 k.toNat) else (n * Nat.pow 10 (-k).toNat, d)

/-- The decimals that round to a number: the fractions between two bounds over one denominator,
the bounds themselves only for an even significand. -/
structure Interval where
  value : Nat
  low : Nat
  high : Nat
  denominator : Nat
  closed : Bool

/-- The interval of the reals that round to a finite number. Below a power of two the lower
neighbour is only half as far away. -/
def interval (x : Binary64) : Interval :=
  let m := x.significand
  let step := if x.fraction = 0 ∧ 1 < x.exponentField then 1 else 2
  let (value, d) := scaled (4 * m) 4 x.power
  let (low, _) := scaled (4 * m - step) 4 x.power
  let (high, _) := scaled (4 * m + 2) 4 x.power
  ⟨value, low, high, d, m % 2 == 0⟩

/-- A whole multiple `c` of `10 ^ k` lies in the interval. -/
def Interval.contains (i : Interval) (c : Nat) (k : Int) : Bool :=
  let (a, b) := if 0 ≤ k then (c * Nat.pow 10 k.toNat * i.denominator, 1)
    else (c * i.denominator, Nat.pow 10 (-k).toNat)
  if i.closed then i.low * b ≤ a && a ≤ i.high * b else i.low * b < a && a < i.high * b

/-- The multiple of `10 ^ k` in the interval that is nearest to its value, an exact middle going
to the even multiple. -/
def Interval.nearest? (i : Interval) (k : Int) : Option Nat :=
  let (a, b) := overPowerOfTen i.value i.denominator k
  let below := a / b
  let above := below + 1
  match i.contains below k, i.contains above k with
  | false, false => none
  | true, false => some below
  | false, true => some above
  | true, true => some (roundDiv a b)

/-- Drops trailing zeros of the digits, at most `fuel` of them. -/
def Decimal.trim : Nat → Decimal → Decimal
  | 0, d => d
  | fuel + 1, d =>
    if d.digits ≠ 0 ∧ d.digits % 10 = 0 then Decimal.trim fuel ⟨d.digits / 10, d.exponent + 1⟩
    else d

/-- The first of the grids `10 ^ top`, `10 ^ (top - 1)`, ... with a point in the interval. -/
def Interval.search (i : Interval) : Nat → Int → Option Decimal
  | 0, _ => none
  | fuel + 1, k =>
    match i.nearest? k with
    | some c => some (Decimal.trim 20 ⟨c, k⟩)
    | none => i.search fuel (k - 1)

/-- The shortest decimal that rounds to a finite number's magnitude. -/
def shortest (x : Binary64) : Decimal :=
  if x.isZero then ⟨0, 0⟩
  else
    let i := x.interval
    (i.search 18 (floorLog10 i.value i.denominator)).getD ⟨0, 0⟩

/-! ### Two ways of writing it -/

/-- The sign, the digits of the shortest decimal, and the place of its point from their start. -/
def pieces (x : Binary64) : String × List Char × Int :=
  let d := x.shortest
  let ds := Nat.toDigits 10 d.digits
  (if x.isNegative then "-" else "", ds, ds.length + d.exponent)

/-- Digits with a point after the first `point` of them, zeros filling the places in between. -/
def placed (ds : List Char) (point : Int) : String :=
  if point ≤ 0 then
    String.ofList ('0' :: '.' :: List.replicate (-point).toNat '0' ++ ds)
  else if (ds.length : Int) ≤ point then
    String.ofList (ds ++ List.replicate (point - ds.length).toNat '0')
  else
    String.ofList (ds.take point.toNat ++ '.' :: ds.drop point.toNat)

/-- Writes a finite number: positionally when the point falls at most five places before or sixteen
places after the first digit, with `.0` behind a whole number, and with an exponent otherwise. -/
def compact (x : Binary64) : String :=
  let (sign, ds, point) := x.pieces
  if x.isZero then sign ++ "0.0"
  else if (ds.length : Int) ≤ point ∧ point ≤ 16 then sign ++ placed ds point ++ ".0"
  else if -5 < point ∧ point ≤ 16 then sign ++ placed ds point
  else
    let tail := match ds with
      | [] | [_] => String.ofList ds
      | c :: rest => String.ofList (c :: '.' :: rest)
    sign ++ tail ++ "e" ++ toString (point - 1)

/-- Writes a finite number without an exponent, with `.0` behind a whole number. -/
def positional (x : Binary64) : String :=
  let (sign, ds, point) := x.pieces
  if x.isZero then sign ++ "0.0"
  else if (ds.length : Int) ≤ point then sign ++ placed ds point ++ ".0"
  else sign ++ placed ds point

end ScatterGather.Binary64
