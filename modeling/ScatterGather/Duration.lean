import ScatterGather.Text.Ascii

/-!
# Spans of time

A duration is a whole number of seconds and of nanoseconds below one second. `text` writes it in
the largest of the units s, ms, µs and ns that gives at least one, with the rest as a decimal
fraction without trailing zeros.
-/

namespace ScatterGather

/-- A span of time. -/
structure Duration where
  /-- Whole seconds. -/
  seconds : Nat
  /-- Nanoseconds on top, below one second. -/
  nanos : Nat
deriving DecidableEq, Inhabited, Repr

namespace Duration

/-- A whole number of seconds. -/
def ofSeconds (n : Nat) : Duration := ⟨n, 0⟩

/-- A whole number of milliseconds. -/
def ofMillis (n : Nat) : Duration := ⟨n / 1000, n % 1000 * 1000000⟩

/-- The whole milliseconds of a duration. -/
def millis (d : Duration) : Nat := d.seconds * 1000 + d.nanos / 1000000

/-- The seconds of a duration with three decimals. -/
def secondsText (d : Duration) : String :=
  toString d.seconds ++ "." ++ Text.padded 3 (d.nanos / 1000000)

/-- The decimal fraction `n` of `width` digits behind a point, without trailing zeros; nothing for
zero. -/
def fractionText (width n : Nat) : String :=
  let ds := (Text.padded width n).toList.reverse.dropWhile (· = '0') |>.reverse
  if ds.isEmpty then "" else "." ++ String.ofList ds

/-- Writes a duration in its largest fitting unit. -/
def text (d : Duration) : String :=
  if 0 < d.seconds then toString d.seconds ++ fractionText 9 d.nanos ++ "s"
  else if 1000000 ≤ d.nanos then
    toString (d.nanos / 1000000) ++ fractionText 6 (d.nanos % 1000000) ++ "ms"
  else if 1000 ≤ d.nanos then toString (d.nanos / 1000) ++ fractionText 3 (d.nanos % 1000) ++ "µs"
  else toString d.nanos ++ "ns"

end Duration

end ScatterGather
