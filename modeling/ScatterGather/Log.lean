/-!
# Log lines

What the library reports beside its answers: a level and a text. Lines are values; who runs the
library writes them.
-/

namespace ScatterGather

/-- How important a log line is. -/
inductive LogLevel where
  | error
  | warn
  | info
deriving DecidableEq, Inhabited, Repr

/-- The name of a level in a written line. -/
def LogLevel.name : LogLevel → String
  | .error => "ERROR"
  | .warn => "WARN"
  | .info => "INFO"

/-- One report. -/
structure LogLine where
  level : LogLevel
  text : String
deriving DecidableEq, Inhabited, Repr

namespace LogLine

/-- A line of level error. -/
def error (text : String) : LogLine := ⟨.error, text⟩

/-- A line of level warn. -/
def warn (text : String) : LogLine := ⟨.warn, text⟩

/-- A line of level info. -/
def info (text : String) : LogLine := ⟨.info, text⟩

/-- The level and the text. -/
def written (l : LogLine) : String := l.level.name ++ " " ++ l.text

end LogLine

end ScatterGather
