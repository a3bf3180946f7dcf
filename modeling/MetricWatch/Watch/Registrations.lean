import MetricWatch.Json.Value

/-!
# Registrations

How many views want a metric, counted for each node and name and, apart from that, for each name
on any node. A count is kept only while it is positive and a node only while it has counts, so two
tables are equal exactly when their counts are.
-/

namespace MetricWatch

open Json (Members)

/-- Positive counts by name. -/
abbrev Counts := Members Nat

namespace Counts

/-- The count of a name. -/
def count (c : Counts) (name : String) : Nat := (c.get? name).getD 0

/-- The counts with one more for a name. -/
def increment (c : Counts) (name : String) : Counts := c.put name (c.count name + 1)

/-- The counts with one less for a name. -/
def decrement (c : Counts) (name : String) : Counts :=
  if c.count name ≤ 1 then c.erase name else c.put name (c.count name - 1)

end Counts

/-- What can be registered: a name on a node, or a name on any node. -/
inductive Interest
  | onNode (nodeId name : String)
  | anywhere (name : String)
  deriving DecidableEq, Repr

/-- One registration more or less of an interest. -/
inductive Operation
  | add (i : Interest)
  | remove (i : Interest)
  deriving DecidableEq, Repr

/-- The registrations for nodes and for any node. -/
structure Registrations where
  perNode : Members Counts
  anywhere : Counts
  deriving DecidableEq, Repr

namespace Registrations

/-- No registrations. -/
def empty : Registrations := ⟨[], []⟩

/-- The counts of a node. -/
def node (r : Registrations) (nodeId : String) : Counts := (r.perNode.get? nodeId).getD []

/-- The registrations of a name on a node. -/
def count (r : Registrations) (nodeId name : String) : Nat := (r.node nodeId).count name

/-- The registrations of a name on any node. -/
def globalCount (r : Registrations) (name : String) : Nat := r.anywhere.count name

/-- The tables with other counts for a node; a node without counts is not kept. -/
def setNode (r : Registrations) (nodeId : String) (counts : Counts) : Registrations :=
  { r with
    perNode := if counts.isEmpty then r.perNode.erase nodeId else r.perNode.put nodeId counts }

/-- One more registration of a name on a node. -/
def add (r : Registrations) (nodeId name : String) : Registrations :=
  r.setNode nodeId ((r.node nodeId).increment name)

/-- One registration less of a name on a node. -/
def remove (r : Registrations) (nodeId name : String) : Registrations :=
  r.setNode nodeId ((r.node nodeId).decrement name)

/-- One more registration of a name on any node. -/
def addGlobal (r : Registrations) (name : String) : Registrations :=
  { r with anywhere := r.anywhere.increment name }

/-- One registration less of a name on any node. -/
def removeGlobal (r : Registrations) (name : String) : Registrations :=
  { r with anywhere := r.anywhere.decrement name }

/-- The registrations of an interest. -/
def countOf (r : Registrations) : Interest → Nat
  | .onNode nodeId name => r.count nodeId name
  | .anywhere name => r.globalCount name

/-- An operation: the count of its interest that it returns, and the tables after it. Without
registrations there is nothing to remove, and the count that is left is zero. -/
def perform (r : Registrations) : Operation → Nat × Registrations
  | .add (.onNode nodeId name) => (r.count nodeId name + 1, r.add nodeId name)
  | .add (.anywhere name) => (r.globalCount name + 1, r.addGlobal name)
  | .remove (.onNode nodeId name) => (r.count nodeId name - 1, r.remove nodeId name)
  | .remove (.anywhere name) => (r.globalCount name - 1, r.removeGlobal name)

/-- Whether nothing is registered. -/
def isEmpty (r : Registrations) : Bool := r.perNode.isEmpty && r.anywhere.isEmpty

/-- The names that are wanted anywhere, sorted and each once. -/
def toFetch (r : Registrations) : List String :=
  let names := r.perNode.flatMap (fun n => n.2.keys) ++ r.anywhere.keys
  (Members.ofList (names.map fun n => (n, ()))).keys

end Registrations

end MetricWatch
