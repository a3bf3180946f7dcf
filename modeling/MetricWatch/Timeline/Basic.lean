import MetricWatch.Timeline.Source
import MetricWatch.Poller.Basic

/-!
# Timelines

A timeline is a store with everything that runs on it, at an instant: the fetches of its rounds,
the callers that wait for rounds, the poller and its loops, timers, and the tasks that are ready
to go on. Tasks go on one at a time in the order in which they became ready, and the clock moves
only when none is ready.
-/

namespace MetricWatch

/-- The two kinds of round. -/
inductive RoundKind
  | list
  | names
  deriving DecidableEq, Repr

/-- The round in the slot of a kind. -/
def Store.occupant (s : Store) : RoundKind → Option Nat
  | .list => s.listSlot.current
  | .names => s.namesSlot.current

/-- The number of the round of a kind that starts next. -/
def Store.nextRound (s : Store) : RoundKind → Nat
  | .list => s.listSlot.next
  | .names => s.namesSlot.next

/-- A call for a round of a kind. -/
def Store.call (s : Store) : RoundKind → Option (Admission × List String) × Store
  | .list => s.callList
  | .names => s.callNames

/-- What can go on. -/
inductive TaskId
  | fetch (kind : RoundKind) (round : Nat)
  | caller (id : Nat)
  | loop (id : Nat)
  deriving DecidableEq, Repr

/-- What the questions of a round bring. -/
inductive Gathered
  | list (reply : Reply ClusterAnswer)
  | names (replies : List (String × Reply (List String)))

/-- How far a fetch is. -/
inductive FetchStage
  /-- It has asked nothing yet. -/
  | begun (items : List String)
  /-- It has asked and is held back at the gate; the answers will take so long. -/
  | held (gathered : Gathered) (delay : Nat)
  /-- Its answers arrive at a time. -/
  | waiting (gathered : Gathered) (until_ : Nat)

/-- The fetch of a round. -/
structure Fetch where
  kind : RoundKind
  round : Nat
  stage : FetchStage

/-- What a caller gets. -/
inductive CallResult
  | listed (result : Option (Except Error Update))
  | named (result : Option (Except Error Listing))

/-- What one who waits for a round gets, once it ended. -/
def Store.result? (s : Store) (kind : RoundKind) (round : Nat) : Option CallResult :=
  match kind with
  | .list => (s.listSlot.outcome? round).map fun r => .listed (some r)
  | .names => (s.namesSlot.outcome? round).map fun r => .named (some r)

/-- How far a caller in the background is. -/
inductive CallerStage
  | begun
  | waiting (round : Nat)
  | finished (result : CallResult)
  | aborted

/-- A caller in the background. -/
structure Caller where
  id : Nat
  kind : RoundKind
  stage : CallerStage

/-- A task to be made ready at a time. -/
structure Timer where
  due : Nat
  task : TaskId
  deriving DecidableEq, Repr

/-- A store with everything that runs on it. Questions and notes are latest first. -/
structure Timeline (σ : Type) where
  now : Nat
  store : Store
  source : σ
  listOpen : Bool
  namesOpen : Bool
  kept : Bool
  fetches : List Fetch
  callers : List Caller
  poller : Option Poller
  loops : List Poller.Loop
  loopCount : Nat
  stats : Poller.Stats
  unseen : List (RoundKind × Nat)
  ready : List TaskId
  timers : List Timer
  questions : List (Nat × Question)
  notes : List Note

namespace Timeline

variable {σ : Type}

/-- A store on which nothing runs. -/
def start (store : Store) (source : σ) : Timeline σ where
  now := 0
  store := store
  source := source
  listOpen := true
  namesOpen := true
  kept := true
  fetches := []
  callers := []
  poller := none
  loops := []
  loopCount := 0
  stats := {}
  unseen := []
  ready := []
  timers := []
  questions := []
  notes := []

/-! ### Tasks -/

/-- Makes a task ready, if it is not. -/
def wake (t : Timeline σ) (task : TaskId) : Timeline σ :=
  if task ∈ t.ready then t else { t with ready := t.ready ++ [task] }

/-- Makes tasks ready in order. -/
def wakeAll (t : Timeline σ) (tasks : List TaskId) : Timeline σ := tasks.foldl wake t

/-- Timers in the order in which they go off, with another one after those due no later. -/
def insertTimer (timer : Timer) : List Timer → List Timer
  | [] => [timer]
  | other :: rest =>
    if timer.due < other.due then timer :: other :: rest else other :: insertTimer timer rest

/-- Sets a timer. -/
def arm (t : Timeline σ) (due : Nat) (task : TaskId) : Timeline σ :=
  { t with timers := insertTimer ⟨due, task⟩ t.timers }

/-- Notes something. -/
def note (t : Timeline σ) (n : Note) : Timeline σ := { t with notes := n :: t.notes }

/-- Notes things in order. -/
def noteAll (t : Timeline σ) (notes : List Note) : Timeline σ := notes.foldl note t

/-! ### Rounds -/

/-- Whether answers of a kind may arrive. -/
def isOpen (t : Timeline σ) : RoundKind → Bool
  | .list => t.listOpen
  | .names => t.namesOpen

/-- How a list round ended. -/
def listOutcome? (t : Timeline σ) (round : Nat) : Option (Except Error Update) :=
  t.store.listSlot.outcome? round

/-- How a names round ended. -/
def namesOutcome? (t : Timeline σ) (round : Nat) : Option (Except Error Listing) :=
  t.store.namesSlot.outcome? round

/-- What one who waits for a round gets, once it ended. -/
def result? (t : Timeline σ) (kind : RoundKind) (round : Nat) : Option CallResult :=
  t.store.result? kind round

/-- What one gets who is not admitted. -/
def notAdmitted : RoundKind → CallResult
  | .list => .listed none
  | .names => .named none

/-- Whether a schedule waits for a round. -/
def awaits (s : Poller.Schedule) (round : Nat) : Bool :=
  match s.stage with
  | .inRound r _ => r == round
  | _ => false

/-- Whether a loop waits for a round. -/
def loopAwaits (l : Poller.Loop) (kind : RoundKind) (round : Nat) : Bool :=
  match kind with
  | .list => awaits l.list round
  | .names => awaits l.names round

/-- Whether a caller waits for a round. -/
def callerAwaits (c : Caller) (kind : RoundKind) (round : Nat) : Bool :=
  match c.stage with
  | .waiting r => c.kind = kind && r == round
  | _ => false

/-- The tasks that wait for a round. -/
def awaiting (t : Timeline σ) (kind : RoundKind) (round : Nat) : List TaskId :=
  (t.callers.filter fun c => callerAwaits c kind round).map (fun c => .caller c.id)
    ++ (t.loops.filter fun l => loopAwaits l kind round).map (fun l => .loop l.id)

/-- A call for a round: what it met, if it was admitted. A round that starts gets a fetch. -/
def call (t : Timeline σ) (kind : RoundKind) : Option Nat × Timeline σ :=
  let (met, store) := t.store.call kind
  let t := { t with store := store }
  match met with
  | none =>
    match kind with
    | .list => (none, t)
    | .names =>
      (none, t.note (.warn "Node list not yet available, not fetching metric names"))
  | some (.joined round, _) => (some round, t)
  | some (.started round, items) =>
    let fetch : Fetch := ⟨kind, round, .begun items⟩
    (some round, { t with fetches := t.fetches ++ [fetch] }.wake (.fetch kind round))

/-- Marks the end of a round as seen; whether it was the first time. -/
def see (t : Timeline σ) (kind : RoundKind) (round : Nat) : Bool × Timeline σ :=
  if (kind, round) ∈ t.unseen then (true, { t with unseen := t.unseen.erase (kind, round) })
  else (false, t)

/-! ### The poller -/

/-- The loop of a number, while it runs. -/
def loop? (t : Timeline σ) (id : Nat) : Option Poller.Loop := t.loops.find? fun l => l.id = id

/-- Changes a loop. -/
def changeLoop (t : Timeline σ) (id : Nat) (change : Poller.Loop → Poller.Loop) : Timeline σ :=
  { t with loops := t.loops.map fun l => if l.id = id then change l else l }

/-- Whether the poller has a loop that it would wait for. -/
def isRunning (t : Timeline σ) : Bool :=
  match t.poller.bind Poller.handle with
  | some id => (t.loop? id).isSome
  | none => false

/-- Whether anything keeps the store. -/
def isStoreKept (t : Timeline σ) : Bool :=
  t.kept || t.poller.isSome || !t.loops.isEmpty || !t.fetches.isEmpty
    || t.callers.any fun c => match c.stage with
      | .begun | .waiting _ => true
      | _ => false

end Timeline

end MetricWatch
