import MetricWatch.Metric.Payload

/-!
# Names of metrics

The answer that lists the metric names of a node, and what is known of all nodes: the names each
node last listed, and the errors of the last round. An entry of an answer is a bare name or an
object that has one.
-/

namespace MetricWatch

open Json (Form Members)

/-- An entry of a listing. -/
inductive NameEntry
  | bare (name : String)
  | described (name : String)
  deriving DecidableEq, Repr

/-- The name of an entry. -/
def NameEntry.name : NameEntry → String
  | .bare name => name
  | .described name => name

/-- A node's listing of its metric names. -/
structure NamesAnswer where
  entries : List NameEntry
  deriving DecidableEq, Repr

/-- The listed names, in order. -/
def NamesAnswer.names (a : NamesAnswer) : List String := a.entries.map NameEntry.name

/-- Entries in JSON. -/
def NameEntry.form : Form NameEntry where
  shape :=
    .either "MetricNameEntry" .text (.object "MetricNameEntry" (.need "full_name" .text .done))
  toDatum
    | .bare name => .first (.text name)
    | .described name => .second (.record [.text name])
  ofDatum?
    | .first (.text name) => some (.bare name)
    | .second (.record [.text name]) => some (.described name)
    | _ => none

/-- Listings in JSON. -/
def NamesAnswer.form : Form NamesAnswer where
  shape := .record "MetricNamesResponse" (.need "metrics" (.list NameEntry.form.shape) .done)
  toDatum a := .record [(Form.list NameEntry.form).toDatum a.entries]
  ofDatum?
    | .record [entries] => do
      let es ← (Form.list NameEntry.form).ofDatum? entries
      some ⟨es⟩
    | _ => none

/-- The names that nodes last listed, and the errors of the nodes that last failed. -/
structure KnownNames where
  names : Members (List String)
  errors : Members Error
  deriving DecidableEq, Repr

/-- Nothing known and nothing failed. -/
def KnownNames.empty : KnownNames := ⟨[], []⟩

end MetricWatch
