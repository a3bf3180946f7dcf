import MetricWatch.Text.NameTable

/-!
# Metric kinds

The five kinds of metric and their names.
-/

namespace MetricWatch

/-- What kind of figures a metric reports. -/
inductive MetricKind
  | counter
  | gauge
  | meter
  | timer
  | histogram
  deriving DecidableEq, Repr

namespace MetricKind

/-- The name of a kind. -/
def name : MetricKind → String
  | .counter => "counter"
  | .gauge => "gauge"
  | .meter => "meter"
  | .timer => "timer"
  | .histogram => "histogram"

/-- All kinds, in the order in which messages list them. -/
def all : List MetricKind := [.counter, .gauge, .meter, .timer, .histogram]

/-- The kinds with their names. -/
def table : NameTable MetricKind := ⟨"MetricKind", all.map fun k => (k, k.name)⟩

/-- The kind of a text, in any ASCII case. -/
def parse (s : String) : Except Error MetricKind := table.parse s

/-- The kind of a name, letter by letter. -/
def ofName? (s : String) : Option MetricKind := all.find? fun k => k.name = s

@[simp] theorem ofName?_name (k : MetricKind) : ofName? k.name = some k := by
  cases k <;> decide

/-- Kinds in JSON. -/
def form : Json.Form MetricKind where
  shape := .name (all.map name)
  toDatum k := .text k.name
  ofDatum?
    | .text s => ofName? s
    | _ => none

end MetricKind

end MetricWatch
