import MetricWatch.Metric.Kind

/-!
# What metrics report

A `Payload` is what a metric of some kind reports: a count, any value, a rate, a timed rate, or a
distribution with a count. Each kind has its form in JSON.
-/

namespace MetricWatch

open Json (Form)

/-- How often something happens, in total and on average over time. -/
structure Rate where
  total : Binary64
  mean : Binary64
  oneMinute : Binary64
  fiveMinute : Binary64
  fifteenMinute : Binary64
  deriving DecidableEq, Repr

/-- How long something takes, as a distribution. -/
structure Timing where
  percentile95 : Binary64
  percentile98 : Binary64
  percentile99 : Binary64
  deviation : Binary64
  mean : Binary64
  min : Binary64
  max : Binary64
  deriving DecidableEq, Repr

/-- What a metric reports. -/
inductive Payload
  | counter (count : Int64)
  | gauge (value : Json.Value)
  | meter (rate : Rate) (unit : String)
  | timer (rate : Rate) (unit : String) (durationUnit : Option String) (time : Timing)
  | histogram (time : Timing) (count : Int64)

/-! ### Forms -/

namespace Rate

/-- Rates in JSON. -/
def form : Form Rate where
  shape := .record "Rate"
    (.need "total" .float <| .need "mean" .float <| .need "one_minute" .float <|
      .need "five_minute" .float <| .need "fifteen_minute" .float .done)
  toDatum r :=
    .record [.float r.total, .float r.mean, .float r.oneMinute, .float r.fiveMinute,
      .float r.fifteenMinute]
  ofDatum?
    | .record [.float a, .float b, .float c, .float d, .float e] => some ⟨a, b, c, d, e⟩
    | _ => none

end Rate

namespace Timing

/-- Distributions in JSON. -/
def form : Form Timing where
  shape := .record "Timing"
    (.need "95th_percentile" .float <| .need "98th_percentile" .float <|
      .need "99th_percentile" .float <| .need "std_dev" .float <| .need "mean" .float <|
      .need "min" .float <| .need "max" .float .done)
  toDatum t :=
    .record [.float t.percentile95, .float t.percentile98, .float t.percentile99,
      .float t.deviation, .float t.mean, .float t.min, .float t.max]
  ofDatum?
    | .record [.float a, .float b, .float c, .float d, .float e, .float f, .float g] =>
      some ⟨a, b, c, d, e, f, g⟩
    | _ => none

end Timing

namespace Payload

/-- The kind that a payload belongs to. -/
def kind : Payload → MetricKind
  | .counter _ => .counter
  | .gauge _ => .gauge
  | .meter _ _ => .meter
  | .timer _ _ _ _ => .timer
  | .histogram _ _ => .histogram

/-- The shape of the payloads of a kind. -/
def shape : MetricKind → Json.Shape
  | .counter => .record "CounterValue" (.need "count" .int64 .done)
  | .gauge => .record "GaugeValue" (.need "value" .any .done)
  | .meter =>
    .record "MeterValue" (.need "rate" Rate.form.shape <| .need "rate_unit" .text .done)
  | .timer =>
    .record "TimerValue"
      (.need "rate" Rate.form.shape <| .need "rate_unit" .text <| .may "duration_unit" .text <|
        .need "time" Timing.form.shape .done)
  | .histogram =>
    .record "HistogramValue" (.need "time" Timing.form.shape <| .need "count" .int64 .done)

/-- A payload as data of its kind's shape. -/
def toDatum : Payload → Json.Datum
  | .counter count => .record [Form.int64.toDatum count]
  | .gauge value => .record [.value value]
  | .meter rate unit => .record [Rate.form.toDatum rate, .text unit]
  | .timer rate unit durationUnit time =>
    .record [Rate.form.toDatum rate, .text unit, (Form.nullable .text).toDatum durationUnit,
      Timing.form.toDatum time]
  | .histogram time count => .record [Timing.form.toDatum time, Form.int64.toDatum count]

/-- The payload of a kind that data stands for. -/
def ofDatum? : MetricKind → Json.Datum → Option Payload
  | .counter, .record [count] => do
    let n ← Form.int64.ofDatum? count
    some (.counter n)
  | .gauge, .record [.value value] => some (.gauge value)
  | .meter, .record [rate, .text unit] => do
    let r ← Rate.form.ofDatum? rate
    some (.meter r unit)
  | .timer, .record [rate, .text unit, durationUnit, time] => do
    let r ← Rate.form.ofDatum? rate
    let u ← (Form.nullable .text).ofDatum? durationUnit
    let t ← Timing.form.ofDatum? time
    some (.timer r unit u t)
  | .histogram, .record [time, count] => do
    let t ← Timing.form.ofDatum? time
    let n ← Form.int64.ofDatum? count
    some (.histogram t n)
  | _, _ => none

/-- The payload as a value. -/
def toValue (p : Payload) : Json.Value := (shape p.kind).write p.toDatum

/-- A gauge's value as a number, if it reports one. -/
def gaugeNumber? : Json.Value → Option Binary64
  | .number n => some n.toBinary64
  | _ => none

end Payload

end MetricWatch
