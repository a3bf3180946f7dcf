import MetricWatch.Timeline.Basic

/-!
# Steps of a timeline

How each kind of task goes on. A fetch asks its questions, waits for their answers and ends its
round. A caller in the background calls and waits. A loop looks at its two schedules in turn and
lets each go on as far as it can.
-/

namespace MetricWatch.Timeline

variable {σ : Type}

/-! ### Fetches -/

/-- Asks for metrics. -/
def askMetrics (S : Source σ) (t : Timeline σ) (names : List String) :
    Answer (Reply ClusterAnswer) × Timeline σ :=
  let asked := S.metrics t.source t.store.session t.now names
  (asked.answer,
    { t with
      source := asked.state
      questions := (t.now, .metrics names) :: t.questions }.noteAll asked.notes)

/-- Asks nodes for their names. Answers that arrive at once are looked at in turn, and a
breakdown among them ends the asking. -/
def askNames (S : Source σ) :
    List String → Timeline σ → List (String × Answer (Reply (List String))) × Timeline σ
  | [], t => ([], t)
  | node :: rest, t =>
    let asked := S.names t.source t.store.session t.now node t.store.namesNamespace
    let t :=
      { t with
        source := asked.state
        questions := (t.now, .names node t.store.namesNamespace) :: t.questions }.noteAll
          asked.notes
    match asked.answer.reply with
    | .broke _ =>
      if t.namesOpen ∧ asked.answer.delay = 0 then ([(node, asked.answer)], t)
      else
        let (more, t) := askNames S rest t
        ((node, asked.answer) :: more, t)
    | _ =>
      let (more, t) := askNames S rest t
      ((node, asked.answer) :: more, t)

/-- How long the answers of nodes take together: until the first breakdown among them, or else until
the last has come. -/
def lasts (answers : List (String × Answer (Reply (List String)))) : Nat :=
  let broken := answers.filter fun a => a.2.reply.breaks
  ((broken.map fun a => a.2.delay).min?.or (answers.map fun a => a.2.delay).max?).getD 0

/-- The replies of nodes that have come by then. -/
def arrived (answers : List (String × Answer (Reply (List String)))) :
    List (String × Reply (List String)) :=
  (answers.filter fun a => a.2.delay ≤ lasts answers).map fun a => (a.1, a.2.reply)

/-- Asks the questions of a round; also how long the answers take and whether they can be held
back. -/
def ask (S : Source σ) (t : Timeline σ) (kind : RoundKind) (items : List String) :
    Gathered × Nat × Bool × Timeline σ :=
  match kind with
  | .list =>
    let (answer, t) := askMetrics S t items
    (.list answer.reply, answer.delay, true, t)
  | .names =>
    let (answers, t) := askNames S items t
    (.names (arrived answers), lasts answers, !items.isEmpty, t)

/-- The first breakdown among replies. -/
def breakdown? : List (String × Reply (List String)) → Option String
  | [] => none
  | (_, .broke text) :: _ => some text
  | _ :: rest => breakdown? rest

/-- Replies without breakdowns as results. -/
def results (replies : List (String × Reply (List String))) :
    List (String × Except Error (List String)) :=
  replies.filterMap fun r => match r.2 with
    | .ok names => some (r.1, .ok names)
    | .failed e => some (r.1, .error e)
    | .broke _ => none

/-- What is noted at the end of a round. -/
def endNotes (store : Store) (gathered : Gathered) : List Note :=
  match gathered with
  | .list (.failed _) => [.warn "Cluster metrics fetch failed, keeping previous snapshot"]
  | .list _ => []
  | .names replies =>
    if (breakdown? replies).isSome then []
    else
      (results replies).filterMap (fun r => match r.2 with
        | .error _ => some (.warn "Failed to fetch metric names")
        | .ok _ => none)
        ++ [{ level := .info
              message := "Metric names updated"
              fields :=
                let known := store.knownNames.after (results replies)
                [("failed", .number (.nat known.errors.length)),
                  ("nodes", .number (.nat known.names.length))] }]

/-- The store at the end of a round, with what the round brought. -/
def conclude (store : Store) (round now : Nat) (gathered : Gathered) : Store :=
  match gathered with
  | .list reply => store.endList round now reply
  | .names replies =>
    match breakdown? replies with
    | some text => store.breakNames round text
    | none => store.endNames round (results replies)

/-- Ends a round: the store takes what it brought and those who wait for it are made ready. -/
def endRound (t : Timeline σ) (kind : RoundKind) (round : Nat) (gathered : Gathered) :
    Timeline σ :=
  let notes := endNotes t.store gathered
  let store := conclude t.store round t.now gathered
  let waiting := t.awaiting kind round
  let stuck := decide (store.occupant kind = some round)
  let t :=
    { t with
      store := store
      fetches := t.fetches.filter fun f => ¬ (f.kind = kind ∧ f.round = round)
      unseen := if stuck ∨ ¬ waiting.isEmpty then (kind, round) :: t.unseen else t.unseen }
  (t.noteAll notes).wakeAll waiting

/-- Puts a fetch at another stage. -/
def setStage (t : Timeline σ) (kind : RoundKind) (round : Nat) (stage : FetchStage) :
    Timeline σ :=
  { t with
    fetches := t.fetches.map fun f =>
      if f.kind = kind ∧ f.round = round then { f with stage := stage } else f }

/-- Lets answers that are no longer held back arrive. -/
def awaitAnswers (t : Timeline σ) (kind : RoundKind) (round : Nat) (gathered : Gathered)
    (delay : Nat) : Timeline σ :=
  if delay = 0 then t.endRound kind round gathered
  else
    (t.setStage kind round (.waiting gathered (t.now + delay))).arm (t.now + delay)
      (.fetch kind round)

/-- A fetch goes on. -/
def stepFetch (S : Source σ) (t : Timeline σ) (kind : RoundKind) (round : Nat) : Timeline σ :=
  match t.fetches.find? fun f => f.kind = kind ∧ f.round = round with
  | none => t
  | some f =>
    match f.stage with
    | .begun items =>
      let (gathered, delay, holdable, t) := ask S t kind items
      if holdable ∧ ¬ t.isOpen kind then t.setStage kind round (.held gathered delay)
      else t.awaitAnswers kind round gathered delay
    | .held gathered delay =>
      if t.isOpen kind then t.awaitAnswers kind round gathered delay else t
    | .waiting gathered until_ =>
      if until_ ≤ t.now then t.endRound kind round gathered else t

/-! ### Callers -/

/-- Puts a caller at another stage. -/
def setCaller (t : Timeline σ) (id : Nat) (stage : CallerStage) : Timeline σ :=
  { t with
    callers := t.callers.map fun c => if c.id = id then { c with stage := stage } else c }

/-- What a caller does after its call: it goes with nothing, or it waits for a round. -/
def afterCall (kind : RoundKind) : Option Nat → CallerStage
  | none => .finished (notAdmitted kind)
  | some round => .waiting round

/-- A caller looks at the round that it waits for. -/
def lookAt (t : Timeline σ) (id : Nat) (kind : RoundKind) (round : Nat) : Timeline σ :=
  match t.result? kind round with
  | some result => (t.see kind round).2.setCaller id (.finished result)
  | none => t

/-- A caller goes on. -/
def stepCaller (t : Timeline σ) (id : Nat) : Timeline σ :=
  match t.callers.find? fun c => c.id = id with
  | none => t
  | some c =>
    match c.stage with
    | .begun =>
      let (met, t) := t.call c.kind
      let t := t.setCaller id (afterCall c.kind met)
      match met with
      | none => t
      | some round => t.lookAt id c.kind round
    | .waiting round => t.lookAt id c.kind round
    | .finished _ | .aborted => t

/-! ### Loops -/

/-- The kind of a schedule's rounds. -/
def kindOf : Poller.Which → RoundKind
  | .list => .list
  | .names => .names

/-- Puts one of a loop's schedules at another stage. -/
def setSchedule (t : Timeline σ) (id : Nat) (which : Poller.Which) (s : Poller.Schedule) :
    Timeline σ :=
  t.changeLoop id fun l => l.withSchedule which s

/-- Counts a failure. -/
def fail (t : Timeline σ) (which : Poller.Which) : Timeline σ :=
  { t with stats := t.stats.fail which }

/-- A schedule calls for its round; `failed` if the nodes could not be refreshed. -/
def beginRound (t : Timeline σ) (id : Nat) (which : Poller.Which) (s : Poller.Schedule)
    (failed : Bool) : Timeline σ :=
  match t.call (kindOf which) with
  | (none, t) =>
    let t := if failed then t.fail which else t
    t.setSchedule id which { s with stage := .resting false }
  | (some round, t) => t.setSchedule id which { s with stage := .inRound round failed }

/-- A names schedule takes the nodes and calls for its round. -/
def takeNodes (t : Timeline σ) (id : Nat) (s : Poller.Schedule)
    (nodes : Except Api.Error (List String)) : Timeline σ :=
  match nodes with
  | .ok ids => { t with store := t.store.updateNodes ids }.beginRound id .names s false
  | .error _ =>
    (t.note (.warn "Node list refresh failed, keeping previous nodes")).beginRound id .names s true

/-- Whether the poller refreshes the nodes. -/
def refreshes (t : Timeline σ) : Bool := t.poller.any Poller.refreshes

/-- A schedule ticks. -/
def tick (S : Source σ) (t : Timeline σ) (id : Nat) (which : Poller.Which)
    (s : Poller.Schedule) : Timeline σ :=
  let s := { s with due := Poller.nextDue s.period s.due t.now }
  let t := { t with stats := t.stats.tick which }
  match which with
  | .list => t.beginRound id .list s false
  | .names =>
    if t.refreshes then
      let asked := S.nodes t.source t.store.session t.now
      let t := { t with source := asked.state }.noteAll asked.notes
      if asked.answer.delay = 0 then t.takeNodes id s asked.answer.reply
      else
        let until_ := t.now + asked.answer.delay
        (t.setSchedule id .names
          { s with stage := .refreshing until_ asked.answer.reply }).arm until_ (.loop id)
    else t.beginRound id .names s false

/-- Whether what a round brought counts as a failure, and what is noted about it. -/
def judge (t : Timeline σ) (which : Poller.Which) (round : Nat) : Option (Bool × List Note) :=
  match which with
  | .list =>
    (t.listOutcome? round).map fun
      | .ok _ => (false, [])
      | .error _ => (true, [.warn "Metrics poll failed, retrying on next tick"])
  | .names =>
    (t.namesOutcome? round).map fun
      | .ok listing => (!listing.known.errors.isEmpty, [])
      | .error _ => (true, [.warn "Metric names poll failed"])

/-- A schedule takes what its round brought. Whoever sees the end of a round first goes on once
more. -/
def takeRound (t : Timeline σ) (id : Nat) (which : Poller.Which) (s : Poller.Schedule)
    (round : Nat) (failed : Bool) : Timeline σ :=
  let (first, t) := t.see (kindOf which) round
  let t := if first then t.wake (.loop id) else t
  let t := if failed then t.fail which else t
  t.setSchedule id which { s with stage := .resting false }

/-- A schedule goes on by one stage, if it can. -/
def stepSchedule (S : Source σ) (t : Timeline σ) (id : Nat) (which : Poller.Which) :
    Option (Timeline σ) :=
  match t.loop? id with
  | none => none
  | some l =>
    let s := l.schedule which
    match s.stage with
    | .stopped => none
    | .resting armed =>
      if l.cancelled then some (t.setSchedule id which { s with stage := .stopped })
      else if s.due ≤ t.now then some (t.tick S id which s)
      else if armed then none
      else some ((t.setSchedule id which { s with stage := .resting true }).arm s.due (.loop id))
    | .refreshing until_ nodes =>
      if l.cancelled then some (t.setSchedule id which { s with stage := .stopped })
      else if until_ ≤ t.now then some (t.takeNodes id s nodes)
      else none
    | .inRound round failed =>
      if l.cancelled then some (t.setSchedule id which { s with stage := .stopped })
      else (t.judge which round).map fun (bad, notes) =>
        (t.noteAll notes).takeRound id which s round (failed || bad)

/-- A schedule goes on as far as it can, by at most so many stages. -/
def runSchedule (S : Source σ) (id : Nat) (which : Poller.Which) : Nat → Timeline σ → Timeline σ
  | 0, t => t
  | fuel + 1, t =>
    match t.stepSchedule S id which with
    | some t => runSchedule S id which fuel t
    | none => t

/-- More stages than a schedule can pass in an instant: every tick moves its due time on, and past
ticks that are due in the instant there are none. -/
def scheduleFuel (t : Timeline σ) (id : Nat) (which : Poller.Which) : Nat :=
  match t.loop? id with
  | some l => 4 * (t.now + Poller.grace + 2 - (l.schedule which).due) + 4
  | none => 0

/-- A loop goes on. Which schedule is looked at first alternates. -/
def stepLoop (S : Source σ) (t : Timeline σ) (id : Nat) : Timeline σ :=
  match t.loop? id with
  | none => t
  | some l =>
    let t := t.changeLoop id fun l => { l with namesFirst := !l.namesFirst }
    let run (which : Poller.Which) (t : Timeline σ) : Timeline σ :=
      runSchedule S id which (t.scheduleFuel id which) t
    let t := if l.namesFirst then run .list (run .names t) else run .names (run .list t)
    { t with loops := t.loops.filter fun l => ¬ (l.id = id ∧ l.isFinished) }

/-! ### Any task -/

/-- A task goes on. -/
def step (S : Source σ) (t : Timeline σ) : TaskId → Timeline σ
  | .fetch kind round => t.stepFetch S kind round
  | .caller id => t.stepCaller id
  | .loop id => t.stepLoop S id

end MetricWatch.Timeline
