import MetricWatch.Json.Value

/-!
# The journal

What the program notes about its own doing: a level, a message and fields.
-/

namespace MetricWatch

/-- How important a note is. -/
inductive Level
  | trace
  | debug
  | info
  | warn
  | error
  deriving DecidableEq, Repr

namespace Level

/-- The name of a level. -/
def name : Level → String
  | .trace => "TRACE"
  | .debug => "DEBUG"
  | .info => "INFO"
  | .warn => "WARN"
  | .error => "ERROR"

/-- How important a level is, as a number. -/
def weight : Level → Nat
  | .trace => 0
  | .debug => 1
  | .info => 2
  | .warn => 3
  | .error => 4

end Level

/-- A note in the journal. -/
structure Note where
  level : Level
  message : String
  fields : Json.Members Json.Value := []

namespace Note

/-- A note of what happened. -/
def info (message : String) : Note := { level := .info, message := message }

/-- A note of what went wrong. -/
def warn (message : String) : Note := { level := .warn, message := message }

end Note

end MetricWatch
