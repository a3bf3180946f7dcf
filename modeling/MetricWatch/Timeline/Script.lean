import MetricWatch.Timeline.Source

/-!
# Scripted sources

A script says what a source answers, question by question; its last line is repeated for ever.
Without a script every registered metric is a counter of one node, whose value is its position in
the question, and no node has names.
-/

namespace MetricWatch

/-- What a source answers: the metrics, the names of each node, and how many milliseconds each
kind of answer takes. -/
structure Script where
  metrics : List (Reply ClusterAnswer) := []
  names : Json.Members (List (Reply (List String))) := []
  metricsDelay : Nat := 0
  namesDelay : Nat := 0

namespace Script

/-- The next line of a script, and what is left of it. -/
def pop? {α : Type} : List α → Option (α × List α)
  | [] => none
  | [last] => some (last, [last])
  | line :: rest => some (line, rest)

/-- The node whose counters are reported without a script. -/
def nodeName : String := "node-1"

/-- A counter for each name, from a position on. -/
def counters : List String → Nat → List Metric
  | [], _ => []
  | name :: rest, position =>
    { fullName := name, name := name, payload := .counter (Int64.ofNat position) }
      :: counters rest (position + 1)

/-- What is answered without a script. -/
def plainAnswer (names : List String) : ClusterAnswer :=
  .ofList [(nodeName, some ⟨counters names 0, some (UInt64.ofNat names.length)⟩)]

/-- The next answer to a question for metrics. -/
def nextMetrics (s : Script) (names : List String) : Reply ClusterAnswer × Script :=
  match pop? s.metrics with
  | some (reply, rest) => (reply, { s with metrics := rest })
  | none => (.ok (plainAnswer names), s)

/-- The next answer to a question for the names of a node. -/
def nextNames (s : Script) (node : String) : Reply (List String) × Script :=
  match (s.names.get? node).bind pop? with
  | some (reply, rest) => (reply, { s with names := s.names.put node rest })
  | none => (.failed ⟨.notFound, node⟩, s)

/-- The source that answers by a script. -/
def source : Source Script where
  metrics s _ _ names :=
    let (reply, s) := s.nextMetrics names
    { state := s, answer := ⟨reply, s.metricsDelay⟩ }
  names s _ _ node _ :=
    let (reply, s) := s.nextNames node
    { state := s, answer := ⟨reply, s.namesDelay⟩ }
  nodes s _ _ := { state := s, answer := ⟨.ok [], 0⟩ }

end Script

end MetricWatch
