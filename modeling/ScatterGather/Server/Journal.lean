import ScatterGather.CommandLine.LogFilter
import ScatterGather.Text.Ascii
import Std.Time

/-!
# Writing the log

Lines that the filter lets through go to standard output, with the time and the part of the program
in front.
-/

namespace ScatterGather.Server

open Std.Time

/-- The time of day in coordinated universal time, to the microsecond. -/
def clockText (t : Timestamp) : String :=
  let now := PlainDateTime.ofWallTime (.ofTimestamp t .zero)
  let two (n : Nat) : String := Text.padded 2 n
  let date := Text.padded 4 now.year.toInt.toNat ++ "-" ++ two now.month.val.toNat
    ++ "-" ++ two now.day.val.toNat
  let time := two now.hour.val.toNat ++ ":" ++ two now.minute.val.toNat ++ ":"
    ++ two now.second.val.toNat
  date ++ "T" ++ time ++ "." ++ Text.padded 6 (now.nanosecond.val.toNat / 1000) ++ "Z"

/-- A line as it is written. -/
def lineText (t : Timestamp) (l : CommandLine.PlacedLine) : String :=
  let level := l.line.level.name
  let level := String.ofList (List.replicate (5 - level.length) ' ') ++ level
  clockText t ++ " " ++ level ++ " " ++ l.part ++ ": " ++ l.line.text

/-- Where log lines go. -/
structure Journal where
  filter : CommandLine.LogFilter

namespace Journal

/-- Writes lines. -/
def write (j : Journal) (lines : List CommandLine.PlacedLine) : IO Unit := do
  for l in lines do
    if j.filter.passes l then
      let out ← IO.getStdout
      out.putStrLn (lineText (← Timestamp.now) l)
      out.flush

/-- Writes lines of one part of the program. -/
def report (j : Journal) (part : String) (lines : List LogLine) : IO Unit :=
  j.write (lines.map fun line => ⟨part, line⟩)

end Journal

end ScatterGather.Server
