import MetricWatch.Store.Basic
import MetricWatch.Journal.Basic
import MetricWatch.Time.Calendar

/-!
# Notes of events

What is noted of the events that the store sends: one note for an event, and one for each metric
or for each node that failed. A reader of the channel that fell behind notes how much it missed.
-/

namespace MetricWatch

open Json (Value)

/-- A number as a field. -/
def Note.number (n : Nat) : Value := .number (.nat n)

/-- The number of metrics in a snapshot. -/
def Snapshot.count (s : Snapshot) : Nat := s.foldl (fun count n => count + n.2.length) 0

/-- What is noted of an event, `instant` giving the times of updates in milliseconds from the
beginning of 1970. -/
def Event.notes (instant : Nat → Int) : Event → List Note
  | .metricsUpdated u =>
    { level := .info
      message := "Metrics updated"
      fields :=
        [("metrics", Note.number (Snapshot.count u.metrics)),
          ("nodes", Note.number u.metrics.length),
          ("updated_at", .string (Calendar.instantText (instant u.time)))] }
      :: u.metrics.flatMap fun n => n.2.map fun m =>
        { level := .debug
          message := "metric"
          fields :=
            [("kind", .string m.2.kind.name), ("metric", .string m.2.fullName),
              ("node_id", .string n.1)] }
  | .namesUpdated l =>
    { level := .info
      message := "Metric names updated"
      fields :=
        [("failed", Note.number l.known.errors.length),
          ("nodes", Note.number l.known.names.length)] }
      :: l.known.errors.map fun e =>
        { level := .warn
          message := "Metric names unavailable"
          fields := [("error", .string e.2.message), ("node_id", .string e.1)] }

/-- What is noted of what a subscriber gets. -/
def Receipt.notes (instant : Nat → Int) : Receipt Event → List Note
  | .event e => e.notes instant
  | .lagged missed =>
    [{ level := .warn
       message := "Event logger fell behind"
       fields := [("skipped", Note.number missed)] }]
  | .none => []

namespace EventLog

/-- What a subscriber notes who takes all that there is, by at most so many receipts. -/
def takeAll (instant : Nat → Int) (subscriber : String) :
    Nat → Channel Event → List Note × Channel Event
  | 0, c => ([], c)
  | receipts + 1, c =>
    match c.receive subscriber with
    | none | some (.none, _) => ([], c)
    | some (receipt, c) =>
      let (more, c) := takeAll instant subscriber receipts c
      (receipt.notes instant ++ more, c)

/-- What a subscriber notes who takes all that there is. -/
def drain (instant : Nat → Int) (subscriber : String) (c : Channel Event) :
    List Note × Channel Event :=
  takeAll instant subscriber (c.length + 1) c

end EventLog

end MetricWatch
