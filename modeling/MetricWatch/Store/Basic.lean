import MetricWatch.Cluster.Metrics
import MetricWatch.Cluster.Nodes
import MetricWatch.Cluster.Names
import MetricWatch.Watch.Registrations
import MetricWatch.Watch.Session
import MetricWatch.Store.Slot
import MetricWatch.Store.Channel

/-!
# The store

The store keeps the latest metrics and names of the cluster. A list round asks for the metrics
that are registered when it starts; a names round asks every node of the directory as it is then.
A list round that succeeds replaces the metrics and tells the subscribers, and one that does not
leaves them as they are. A names round always replaces the names: a node that fails keeps the
names it had.
-/

namespace MetricWatch

open Json (Members)

/-! ### What rounds bring -/

/-- What a list round that succeeded brought, and when. -/
structure Update where
  round : Nat
  metrics : Snapshot
  time : Nat

/-- What a names round brought. -/
structure Listing where
  round : Nat
  known : KnownNames

/-- What subscribers are told. -/
inductive Event
  | metricsUpdated (u : Update)
  | namesUpdated (l : Listing)

/-- What is known of names after one node's fetch, `previous` being what was known before the
round. -/
def KnownNames.record (previous known : KnownNames) (node : String)
    (result : Except Error (List String)) : KnownNames :=
  match result with
  | .ok names => { known with names := known.names.put node names }
  | .error e =>
    { names := match previous.names.get? node with
        | some names => known.names.put node names
        | none => known.names
      errors := known.errors.put node e }

/-- What is known of names after a round. -/
def KnownNames.after (previous : KnownNames)
    (results : List (String × Except Error (List String))) : KnownNames :=
  results.foldl (fun known r => previous.record known r.1 r.2) .empty

/-! ### The store -/

/-- The store of the cluster's metrics and names. -/
structure Store where
  registrations : Registrations
  session : Session
  directory : Directory
  namesNamespace : String
  latest : Option Update
  listing : Option Listing
  listSlot : Slot Update
  namesSlot : Slot Listing
  channel : Channel Event

namespace Store

/-- The namespace whose names are listed unless another is given. -/
def defaultNamespace : String := "org"

/-- The number of events kept for subscribers unless another is given. -/
def defaultCapacity : Nat := 64

/-- A store before any round. -/
def fresh (session : Session) (directory : Directory) (namesNamespace : String)
    (capacity : Nat) : Store where
  registrations := .empty
  session := session
  directory := directory
  namesNamespace := namesNamespace
  latest := none
  listing := none
  listSlot := .fresh
  namesSlot := .fresh
  channel := .ofCapacity (max 1 capacity)

/-- The metrics of the last list round that succeeded. -/
def metrics (s : Store) : Snapshot :=
  match s.latest with
  | some u => u.metrics
  | none => []

/-- When the metrics were last replaced. -/
def updatedAt (s : Store) : Option Nat := s.latest.map Update.time

/-- What is known of names. -/
def knownNames (s : Store) : KnownNames :=
  match s.listing with
  | some l => l.known
  | none => .empty

/-- Whether a list round is outstanding. -/
def isListing (s : Store) : Bool := s.listSlot.isPending

/-! ### List rounds -/

/-- A call for metrics: nothing without a session, else the admission and, for a round that
starts, the names it asks for. -/
def callList (s : Store) : Option (Admission × List String) × Store :=
  if s.session.isLoggedIn then
    let (admission, slot) := s.listSlot.enter
    (some (admission, s.registrations.toFetch), { s with listSlot := slot })
  else (none, s)

/-- The end of a list round. -/
def endList (s : Store) (round time : Nat) (reply : Reply ClusterAnswer) : Store :=
  match reply with
  | .ok answer =>
    let update : Update := ⟨round, answer.flatten, time⟩
    { s with
      latest := some update
      channel := s.channel.send (.metricsUpdated update)
      listSlot := s.listSlot.finish round (.ok update) }
  | .failed e => { s with listSlot := s.listSlot.finish round (.error e) }
  | .broke text => { s with listSlot := s.listSlot.breakOff round text }

/-! ### Names rounds -/

/-- A call for names: nothing while the nodes are unknown, else the admission and, for a round
that starts, the nodes it asks. -/
def callNames (s : Store) : Option (Admission × List String) × Store :=
  match s.directory.nodes with
  | none => (none, s)
  | some nodes =>
    let (admission, slot) := s.namesSlot.enter
    (some (admission, nodes), { s with namesSlot := slot })

/-- The end of a names round in which every node's fetch ended. -/
def endNames (s : Store) (round : Nat) (results : List (String × Except Error (List String))) :
    Store :=
  let listing : Listing := ⟨round, s.knownNames.after results⟩
  { s with
    listing := some listing
    channel := s.channel.send (.namesUpdated listing)
    namesSlot := s.namesSlot.finish round (.ok listing) }

/-- The end of a names round in which a node's fetch broke down. -/
def breakNames (s : Store) (round : Nat) (text : String) : Store :=
  { s with namesSlot := s.namesSlot.breakOff round text }

/-! ### Bookkeeping -/

/-- Changes the registrations. -/
def register (s : Store) (change : Registrations → Registrations) : Store :=
  { s with registrations := change s.registrations }

/-- Replaces the nodes. -/
def updateNodes (s : Store) (nodes : List String) : Store :=
  { s with directory := s.directory.update nodes }

/-- Refreshes the nodes with what asking for them brought, and tells how many they are. If it failed
they stay as they are. -/
def refresh (s : Store) (brought : Except Api.Error (List String)) :
    Except Api.Error Nat × Store :=
  match brought with
  | .ok nodes => (.ok nodes.length, s.updateNodes nodes)
  | .error e => (.error e, s)

end Store

/-! ### Building a store -/

/-- The parts of a store under construction. A store cannot do without a source and a session. -/
structure StoreParts where
  hasSource : Bool
  session : Option Session
  directory : Option Directory
  namesNamespace : Option String
  capacity : Option Nat

/-- A store of parts. -/
def StoreParts.build (p : StoreParts) : Except Error Store :=
  if p.hasSource then
    match p.session with
    | some session =>
      .ok (.fresh session (p.directory.getD .unknown)
        (p.namesNamespace.getD Store.defaultNamespace) (p.capacity.getD Store.defaultCapacity))
    | none => .error ⟨.config, "Session provider not set"⟩
  else .error ⟨.config, "Metrics source not set"⟩

end MetricWatch
