import ScatterGather.Log
import ScatterGather.Text.Ascii

/-!
# Which log lines are written

A filter is a list of directives, each with the part of the program it is about and the least
important level it lets through. The directive about the narrowest part decides; where none is about
a part, nothing of it is written.
-/

namespace ScatterGather.CommandLine

/-- How much is let through: nothing for zero, up to errors for one, warnings for two, and reports
from three on. -/
abbrev Verbosity := Nat

/-- The verbosity at which lines of a level are let through. -/
def verbosityOf : LogLevel → Verbosity
  | .error => 1
  | .warn => 2
  | .info => 3

/-- The verbosity of a name, in any ASCII case, or of a digit. -/
def verbosity? (name : String) : Option Verbosity :=
  ["off", "error", "warn", "info", "debug", "trace"].idxOf? (Text.asciiLower name)
    <|> ["0", "1", "2", "3", "4", "5"].idxOf? name

/-- What is let through of a part of the program; all parts have the empty name as their prefix. -/
structure Directive where
  part : String
  verbosity : Verbosity
deriving DecidableEq, Inhabited, Repr

/-- Directives, later ones counting more among those about one part. -/
abbrev LogFilter := List Directive

/-- A log line with the part of the program it is from. -/
structure PlacedLine where
  part : String
  line : LogLine
deriving DecidableEq, Inhabited, Repr

/-- The part of the program that runs the command line. -/
def mainPart : String := "shardline"

/-- The part of the program that finds the configuration. -/
def configPart : String := "shardline::config"

namespace LogFilter

/-- The filter where none is given. -/
def default : LogFilter := [⟨"shardline", 3⟩, ⟨"tower_http", 3⟩]

/-- The character may stand in the name of a part. -/
def isPartChar (c : Char) : Bool := c.isAlphanum || c = '_' || c = ':'

/-- Reads a directive: a level, a part, or both. -/
def directive? (s : String) : Option Directive :=
  match s.splitOn "=" with
  | [one] =>
    match verbosity? one with
    | some v => some ⟨"", v⟩
    | none => if one.toList.all isPartChar then some ⟨one, 5⟩ else none
  | [part, level] => do return ⟨part, ← verbosity? level⟩
  | _ => none

/-- Reads a filter; an empty one lets errors through. -/
def parse? (s : String) : Option LogFilter :=
  if s.isEmpty then some [⟨"", 1⟩]
  else ((s.splitOn ",").filter (· ≠ "")).mapM directive?

/-- The filter of a variable of the environment; the default where it is not set or malformed. -/
def ofVariable (value : Option String) : LogFilter := (value.bind parse?).getD default

/-- The more specific of two directives, the later when they are equal. -/
def narrower (best : Option Directive) (d : Directive) : Option Directive :=
  match best with
  | some b => if d.part.length < b.part.length then some b else some d
  | none => some d

/-- A line is let through. -/
def passes (f : LogFilter) (l : PlacedLine) : Bool :=
  match (f.filter fun d => l.part.startsWith d.part).foldl narrower none with
  | some d => verbosityOf l.line.level ≤ d.verbosity
  | none => false

/-- The lines that are written. -/
def written (f : LogFilter) (lines : List PlacedLine) : List LogLine :=
  (lines.filter (passes f)).map (·.line)

end LogFilter

end ScatterGather.CommandLine
