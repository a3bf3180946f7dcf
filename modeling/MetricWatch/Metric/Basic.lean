import MetricWatch.Metric.Payload

/-!
# Metrics

A metric is a full name, a short name and a payload. In JSON the payload's kind stands beside it
under `type`, and decides how the payload under `metric` is read. The payload is read by way of a
value, so that a key repeated inside it keeps its last entry.
-/

namespace MetricWatch

/-- A metric as a node reports it. -/
structure Metric where
  fullName : String
  name : String
  payload : Payload

namespace Metric

/-- The kind of a metric. -/
def kind (m : Metric) : MetricKind := m.payload.kind

/-- A metric whose payload is any value. -/
def rawShape : Json.Shape :=
  .record "RawMetric"
    (.need "full_name" .text <| .need "name" .text <| .need "type" MetricKind.form.shape <|
      .need "metric" .any .done)

/-- Why a payload is refused. -/
def payloadError (kind : MetricKind) (fullName : String) (fault : Json.Fault) : Error :=
  ⟨.decode, kind.name ++ " metric '" ++ fullName ++ "' has an invalid payload: " ++ fault.message⟩

/-- Reads the payload of a metric whose kind is known. -/
def refine : Json.Datum → Except String Json.Datum
  | .record [.text fullName, .text name, .text kindName, .value payload] =>
    match MetricKind.ofName? kindName with
    | none => .error kindName
    | some kind =>
      match (Payload.shape kind).readValue payload with
      | .ok d => .ok (.record [.text fullName, .text name, .text kindName, d])
      | .error fault => .error (payloadError kind fullName fault).message
  | d => .ok d

/-- Writes the payload of a metric as a value. -/
def unrefine : Json.Datum → Json.Datum
  | .record [.text fullName, .text name, .text kindName, d] =>
    match MetricKind.ofName? kindName with
    | none => .none
    | some kind =>
      .record [.text fullName, .text name, .text kindName, .value ((Payload.shape kind).write d)]
  | _ => .none

/-- Metrics in JSON. -/
def form : Json.Form Metric where
  shape := .checked rawShape refine unrefine
  toDatum m := .record [.text m.fullName, .text m.name, .text m.kind.name, m.payload.toDatum]
  ofDatum?
    | .record [.text fullName, .text name, .text kindName, d] => do
      let kind ← MetricKind.ofName? kindName
      let payload ← Payload.ofDatum? kind d
      some ⟨fullName, name, payload⟩
    | _ => none

end Metric

end MetricWatch
