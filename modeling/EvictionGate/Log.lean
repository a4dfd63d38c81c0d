/-!
# Log lines

What the gate tells its operator. A line has a level and a text; a log is listed
in the order in which its lines were written.
-/

namespace EvictionGate

/-- How much a log line matters. -/
inductive Level
  | error
  | warn
  | info
  | debug
  | trace
  deriving DecidableEq, Repr

namespace Level

/-- The name of a level. -/
def name : Level → String
  | .error => "ERROR"
  | .warn => "WARN"
  | .info => "INFO"
  | .debug => "DEBUG"
  | .trace => "TRACE"

/-- How verbose a log has to be to show a level. -/
def verbosity : Level → Nat
  | .error => 1
  | .warn => 2
  | .info => 3
  | .debug => 4
  | .trace => 5

end Level

/-- A line of the log. -/
structure LogLine where
  level : Level
  text : String
  deriving DecidableEq, Repr

/-- The lines of a log, in order. -/
abbrev Log := List LogLine

namespace LogLine

/-- The line as it is shown. -/
def shown (l : LogLine) : String :=
  l.level.name ++ " " ++ l.text

end LogLine

end EvictionGate
