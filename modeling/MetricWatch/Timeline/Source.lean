import MetricWatch.Store.Basic
import MetricWatch.Journal.Basic

/-!
# Sources

Where metrics and names come from. A question is answered at once as far as its content goes; the
answer arrives after a delay, and may be held back until a gate opens. A source has a state of its
own and may note what it does.
-/

namespace MetricWatch

/-- What a question brings: a reply and how many milliseconds it takes. -/
structure Answer (α : Type) where
  reply : α
  delay : Nat

/-- What a source does with a question. -/
structure Asked (σ α : Type) where
  state : σ
  answer : Answer α
  notes : List Note := []

/-- A source of metrics, names and nodes, with states in `σ`. Questions are asked in a session at
a time. -/
structure Source (σ : Type) where
  metrics : σ → Session → Nat → List String → Asked σ (Reply ClusterAnswer)
  names : σ → Session → Nat → String → String → Asked σ (Reply (List String))
  nodes : σ → Session → Nat → Asked σ (Except Api.Error (List String))

/-- A question that a round asked. -/
inductive Question
  | metrics (names : List String)
  | names (node namesNamespace : String)
  deriving DecidableEq, Repr

end MetricWatch
