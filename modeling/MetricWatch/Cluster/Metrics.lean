import MetricWatch.Metric.Basic

/-!
# Metrics of the cluster

The request for metrics, the answer with a section for each node, and the snapshot that an answer
is flattened into: node, then full name, then metric. A node that could not be asked is null in
the answer and not in the snapshot; of two metrics of one full name the later counts.
-/

namespace MetricWatch

open Json (Form Members)

/-- The names whose metrics are asked for. -/
structure MetricsRequest where
  metrics : List String
  deriving DecidableEq, Repr

/-- The part of an answer that one node gives. -/
structure NodeSection where
  metrics : List Metric
  total : Option UInt64

/-- An answer of the cluster: a section for each node that could be asked. -/
abbrev ClusterAnswer := Members (Option NodeSection)

/-- The metrics of one node by full name. -/
abbrev NodeMetrics := Members Metric

/-- The metrics of the cluster by node and full name. -/
abbrev Snapshot := Members NodeMetrics

/-- Requests in JSON. -/
def MetricsRequest.form : Form MetricsRequest where
  shape := .record "MetricsRequest" (.need "metrics" (.list .text) .done)
  toDatum r := .record [(Form.list .text).toDatum r.metrics]
  ofDatum?
    | .record [metrics] => do
      let ms ← (Form.list .text).ofDatum? metrics
      some ⟨ms⟩
    | _ => none

/-- Sections in JSON. -/
def NodeSection.form : Form NodeSection where
  shape :=
    .record "NodeMetricsResponse"
      (.need "metrics" (.list Metric.form.shape) <| .may "total" (.nat64 "usize") .done)
  toDatum s :=
    .record [(Form.list Metric.form).toDatum s.metrics,
      (Form.nullable (.nat64 "usize")).toDatum s.total]
  ofDatum?
    | .record [metrics, total] => do
      let ms ← (Form.list Metric.form).ofDatum? metrics
      let t ← (Form.nullable (.nat64 "usize")).ofDatum? total
      some ⟨ms, t⟩
    | _ => none

/-- Answers in JSON. -/
def ClusterAnswer.form : Form ClusterAnswer := .members (.nullable NodeSection.form)

/-- The metrics of a section by full name. -/
def NodeSection.byName (s : NodeSection) : NodeMetrics :=
  Members.ofList (s.metrics.map fun m => (m.fullName, m))

/-- The snapshot of an answer. -/
def ClusterAnswer.flatten (answer : ClusterAnswer) : Snapshot :=
  answer.filterMap fun e => e.2.map fun s => (e.1, s.byName)

end MetricWatch
