import MetricWatch.Metric.Payload

/-!
# Nodes of the cluster

The answer that lists the cluster's nodes, and the directory of node ids that is kept. A directory
that was never filled holds nothing, which is not the same as an empty one.
-/

namespace MetricWatch

open Json (Form)

/-- A node as the cluster lists it. -/
structure ClusterNode where
  id : String
  hostname : Option String
  address : Option String
  isLeader : Bool
  deriving DecidableEq, Repr

/-- The cluster's answer to who its nodes are. -/
structure NodesAnswer where
  nodes : List ClusterNode
  total : Option UInt64
  deriving DecidableEq, Repr

/-- Nodes in JSON. -/
def ClusterNode.form : Form ClusterNode where
  shape :=
    .record "ClusterNode"
      (.need "node_id" .text <| .may "hostname" .text <| .may "transport_address" .text <|
        .default "is_leader" .bool (.bool false) .done)
  toDatum n :=
    .record [.text n.id, (Form.nullable .text).toDatum n.hostname,
      (Form.nullable .text).toDatum n.address, .bool n.isLeader]
  ofDatum?
    | .record [.text id, hostname, address, .bool isLeader] => do
      let h ← (Form.nullable .text).ofDatum? hostname
      let a ← (Form.nullable .text).ofDatum? address
      some ⟨id, h, a, isLeader⟩
    | _ => none

/-- Lists of nodes in JSON. -/
def NodesAnswer.form : Form NodesAnswer where
  shape :=
    .record "ClusterNodesResponse"
      (.need "nodes" (.list ClusterNode.form.shape) <| .may "total" (.nat64 "usize") .done)
  toDatum a :=
    .record [(Form.list ClusterNode.form).toDatum a.nodes,
      (Form.nullable (.nat64 "usize")).toDatum a.total]
  ofDatum?
    | .record [nodes, total] => do
      let ns ← (Form.list ClusterNode.form).ofDatum? nodes
      let t ← (Form.nullable (.nat64 "usize")).ofDatum? total
      some ⟨ns, t⟩
    | _ => none

/-- The ids of the listed nodes, in order. -/
def NodesAnswer.ids (a : NodesAnswer) : List String := a.nodes.map ClusterNode.id

/-- The node ids that are known, if any were ever given. -/
structure Directory where
  nodes : Option (List String)
  deriving DecidableEq, Repr

namespace Directory

/-- The directory that was never filled. -/
def unknown : Directory := ⟨none⟩

/-- The directory of some nodes. -/
def ofList (ids : List String) : Directory := ⟨some ids⟩

/-- The directory after its nodes are replaced. -/
def update (_ : Directory) (ids : List String) : Directory := ofList ids

end Directory

end MetricWatch
