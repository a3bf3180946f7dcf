import MetricWatch.Api.Client
import MetricWatch.Timeline.Source

/-!
# The cluster as a source

The source that calls the cluster's interface over a network. It keeps a record of the requests
that were sent and when.
-/

namespace MetricWatch.Api

open Http (Network Request)

/-- The state of a network with the record of requests, latest first, in milliseconds. -/
structure Wire (σ : Type) where
  network : σ
  sent : List (Nat × Request) := []

namespace Wire

variable {σ α β : Type}

/-- The wire after a call that began at a time. -/
def after (w : Wire σ) (now : Nat) (r : Reached σ α) : Wire σ :=
  { network := r.state
    sent := (r.sent.map fun s => (now + s.1.millis, s.2)).reverse ++ w.sent }

/-- What a call brings to whoever asked, read in some way. -/
def asked (w : Wire σ) (now : Nat) (r : Reached σ α) (read : Except Error α → β) :
    Asked (Wire σ) β :=
  { state := w.after now r, answer := ⟨read r.result, r.time.millis⟩, notes := r.notes }

end Wire

/-- The result of a call as a reply. -/
def reply {α : Type} : Except Error α → Reply α
  | .ok a => .ok a
  | .error e => .failed e.toError

/-- The source that a client is over a network. -/
def source {σ : Type} (net : Network σ) (c : Client) : Source (Wire σ) where
  metrics w session now names := w.asked now (c.metrics net session w.network names) reply
  names w session now node ns := w.asked now (c.names net session w.network node ns) reply
  nodes w session now := w.asked now (c.nodes net session w.network) id

end MetricWatch.Api
