import MetricWatch.Proofs.Polling.Turns

/-!
# The state of the tasks

When a task goes on, and for how long, depends on the clock, the gates, the results of rounds, the
fetches, the callers, the loops, and the tasks and timers that are set: this is the state of the
tasks of a timeline. What is asked, answered, counted and noted is no part of it. Here are the
operations on the state of the tasks and the ways in which each kind of task changes it.
-/

namespace MetricWatch.Timeline

variable {σ : Type} {S : Source σ} {t t' : Timeline σ}

/-- What drives a timeline. -/
structure TaskState where
  now : Nat
  isOpen : RoundKind → Bool
  result? : RoundKind → Nat → Option CallResult
  fetches : List Fetch
  callers : List Caller
  loops : List Poller.Loop
  ready : List TaskId
  timers : List Timer

/-- The state of the tasks of a timeline. -/
def taskState (t : Timeline σ) : TaskState where
  now := t.now
  isOpen := t.isOpen
  result? := t.result?
  fetches := t.fetches
  callers := t.callers
  loops := t.loops
  ready := t.ready
  timers := t.timers

namespace TaskState

/-! ### Operations -/

/-- Makes a task ready, if it is not. -/
def wake (g : TaskState) (task : TaskId) : TaskState := { g with ready := woken g.ready task }

/-- Makes tasks ready in order. -/
def wakeAll (g : TaskState) (tasks : List TaskId) : TaskState :=
  { g with ready := tasks.foldl woken g.ready }

/-- Sets a timer. -/
def arm (g : TaskState) (due : Nat) (task : TaskId) : TaskState :=
  { g with timers := insertTimer ⟨due, task⟩ g.timers }

/-- Puts a fetch at another stage. -/
def setStage (g : TaskState) (kind : RoundKind) (round : Nat) (stage : FetchStage) : TaskState :=
  { g with
    fetches := g.fetches.map fun f =>
      if f.kind = kind ∧ f.round = round then { f with stage := stage } else f }

/-- Puts a caller at another stage. -/
def setCaller (g : TaskState) (id : Nat) (stage : CallerStage) : TaskState :=
  { g with callers := g.callers.map fun c => if c.id = id then { c with stage := stage } else c }

/-- Puts one of a loop's schedules at another stage. -/
def setSchedule (g : TaskState) (id : Nat) (which : Poller.Which) (s : Poller.Schedule) :
    TaskState :=
  { g with loops := g.loops.map fun l => if l.id = id then l.withSchedule which s else l }

/-- Begins the fetch of a round. -/
def begin (g : TaskState) (kind : RoundKind) (round : Nat) (items : List String) : TaskState :=
  { g with
    fetches := g.fetches ++ [⟨kind, round, .begun items⟩]
    ready := woken g.ready (.fetch kind round) }

/-- The tasks that wait for a round. -/
def awaiting (g : TaskState) (kind : RoundKind) (round : Nat) : List TaskId :=
  (g.callers.filter fun c => callerAwaits c kind round).map (fun c => .caller c.id)
    ++ (g.loops.filter fun l => loopAwaits l kind round).map (fun l => .loop l.id)

/-- Ends a round with a result. -/
def finish (g : TaskState) (kind : RoundKind) (round : Nat) (result : CallResult) : TaskState :=
  { g with
    result? := fun k r => if kind = k ∧ round = r then some result else g.result? k r
    fetches := g.fetches.filter fun f => ¬ (f.kind = kind ∧ f.round = round)
    ready := (g.awaiting kind round).foldl woken g.ready }

end TaskState

/-! ### What operations of a timeline do to its tasks -/

@[simp] lemma taskState_wake (t : Timeline σ) (task : TaskId) :
    (t.wake task).taskState = t.taskState.wake task := by
  rw [wake_eq]
  rfl

@[simp] lemma taskState_wakeAll (t : Timeline σ) (tasks : List TaskId) :
    (t.wakeAll tasks).taskState = t.taskState.wakeAll tasks := by
  rw [wakeAll_eq]
  rfl

@[simp] lemma taskState_arm (t : Timeline σ) (due : Nat) (task : TaskId) :
    (t.arm due task).taskState = t.taskState.arm due task := rfl

@[simp] lemma taskState_noteAll (t : Timeline σ) (notes : List Note) :
    (t.noteAll notes).taskState = t.taskState := by
  rw [noteAll_eq]
  rfl

@[simp] lemma taskState_see (t : Timeline σ) (kind : RoundKind) (round : Nat) :
    (t.see kind round).2.taskState = t.taskState := by
  unfold see
  split <;> rfl

@[simp] lemma taskState_fail (t : Timeline σ) (which : Poller.Which) :
    (t.fail which).taskState = t.taskState := rfl

@[simp] lemma taskState_setStage (t : Timeline σ) (kind : RoundKind) (round : Nat)
    (stage : FetchStage) :
    (t.setStage kind round stage).taskState = t.taskState.setStage kind round stage :=
  rfl

@[simp] lemma taskState_setCaller (t : Timeline σ) (id : Nat) (stage : CallerStage) :
    (t.setCaller id stage).taskState = t.taskState.setCaller id stage := rfl

@[simp] lemma taskState_setSchedule (t : Timeline σ) (id : Nat) (which : Poller.Which)
    (s : Poller.Schedule) :
    (t.setSchedule id which s).taskState = t.taskState.setSchedule id which s :=
  rfl

@[simp] lemma taskState_asked (S : Source σ) (t : Timeline σ) (kind : RoundKind)
    (items : List String) : (asked S t kind items).taskState = t.taskState := by
  obtain ⟨_, _, _, consulted⟩ := ask_eq S t kind items
  rw [asked, consulted]
  rfl

lemma taskState_endRound (t : Timeline σ) (kind : RoundKind) (round : Nat) {g : Gathered}
    (ofKind : g.kind = kind) : (t.endRound kind round g).taskState
      = t.taskState.finish kind round (ending t.store round t.now g) := by
  simp only [endRound, taskState_wakeAll, taskState_noteAll]
  simp only [taskState, TaskState.finish, TaskState.wakeAll, TaskState.mk.injEq, true_and]
  refine ⟨?_, ?_, rfl, trivial⟩
  · funext k
    cases k <;> rfl
  · funext k r
    simp only [result?, result?_conclude, ofKind]

/-! ### How tasks go on -/

namespace TaskState

/-- The ways in which a call is admitted to a round: it joins the round, or it starts one that has
brought nothing yet. -/
inductive Enters (g : TaskState) (kind : RoundKind) (round : Nat) : TaskState → Prop
  | joined : Enters g kind round g
  | started (unknown : g.result? kind round = none) (items : List String) :
      Enters g kind round (g.begin kind round items)

/-- The ways in which a schedule that calls for its round goes on. -/
inductive Begins (g : TaskState) (id : Nat) (which : Poller.Which) (s : Poller.Schedule) :
    TaskState → Prop
  | declined : Begins g id which s (g.setSchedule id which { s with stage := .resting false })
  | admitted {round : Nat} {g' : TaskState} (enters : g.Enters (kindOf which) round g')
      (failed : Bool) :
      Begins g id which s (g'.setSchedule id which { s with stage := .inRound round failed })

/-- A schedule whose tick comes now. -/
def ticked (g : TaskState) (s : Poller.Schedule) : Poller.Schedule :=
  { s with due := Poller.nextDue s.period s.due g.now }

/-- The ways in which a schedule of a loop goes on. -/
inductive Turn (g : TaskState) (l : Poller.Loop) (which : Poller.Which) : TaskState → Prop
  | stops (cancelled : l.cancelled = true) (running : (l.schedule which).isStopped = false) :
      Turn g l which (g.setSchedule l.id which { l.schedule which with stage := .stopped })
  | ticks {armed : Bool} {g' : TaskState} (live : l.cancelled = false)
      (resting : (l.schedule which).stage = .resting armed) (due : (l.schedule which).due ≤ g.now)
      (begins : g.Begins l.id which (g.ticked (l.schedule which)) g') : Turn g l which g'
  | refreshes {armed : Bool} (live : l.cancelled = false)
      (resting : (l.schedule which).stage = .resting armed) (due : (l.schedule which).due ≤ g.now)
      (ofNames : which = .names) {until_ : Nat} (later : g.now < until_)
      (nodes : Except Api.Error (List String)) :
      Turn g l which ((g.setSchedule l.id which
        { g.ticked (l.schedule which) with stage := .refreshing until_ nodes }).arm until_
          (.loop l.id))
  | arms (live : l.cancelled = false) (resting : (l.schedule which).stage = .resting false)
      (early : g.now < (l.schedule which).due) :
      Turn g l which ((g.setSchedule l.id which
        { l.schedule which with stage := .resting true }).arm (l.schedule which).due (.loop l.id))
  | takesNodes {until_ : Nat} {nodes : Except Api.Error (List String)} {g' : TaskState}
      (live : l.cancelled = false) (refreshing : (l.schedule which).stage = .refreshing until_ nodes)
      (arrived : until_ ≤ g.now) (begins : g.Begins l.id which (l.schedule which) g') :
      Turn g l which g'
  | takesRound {round : Nat} {failed : Bool} (live : l.cancelled = false)
      (inRound : (l.schedule which).stage = .inRound round failed)
      (ended : g.result? (kindOf which) round ≠ none) (again : Bool) :
      Turn g l which ((if again then g.wake (.loop l.id) else g).setSchedule l.id which
        { l.schedule which with stage := .resting false })

/-- The ways in which a fetch goes on. -/
inductive FetchTurn (g : TaskState) (f : Fetch) : TaskState → Prop
  | stays {gathered : Gathered}
      (patient : (∃ delay, f.stage = .held gathered delay ∧ g.isOpen f.kind = false) ∨
        ∃ until_, f.stage = .waiting gathered until_ ∧ g.now < until_) : FetchTurn g f g
  | holds (closed : g.isOpen f.kind = false) (gathered : Gathered) (delay : Nat) :
      FetchTurn g f (g.setStage f.kind f.round (.held gathered delay))
  | waits {until_ : Nat} (later : g.now < until_) (gathered : Gathered) :
      FetchTurn g f ((g.setStage f.kind f.round (.waiting gathered until_)).arm until_
        (.fetch f.kind f.round))
  | ends (result : CallResult) : FetchTurn g f (g.finish f.kind f.round result)

/-- The ways in which a caller goes on. -/
inductive CallerTurn (g : TaskState) (c : Caller) : TaskState → Prop
  | stays (patient : (∃ result, c.stage = .finished result) ∨ c.stage = .aborted ∨
      ∃ round, c.stage = .waiting round ∧ g.result? c.kind round = none) : CallerTurn g c g
  | served {round : Nat} {result : CallResult} (waiting : c.stage = .waiting round) :
      CallerTurn g c (g.setCaller c.id (.finished result))
  | declined (begun : c.stage = .begun) (result : CallResult) :
      CallerTurn g c (g.setCaller c.id (.finished result))
  | admitted {round : Nat} {g' : TaskState} {stage : CallerStage} (begun : c.stage = .begun)
      (enters : g.Enters c.kind round g')
      (settled : (stage = .waiting round ∧ g'.result? c.kind round = none) ∨
        ∃ result, stage = .finished result) :
      CallerTurn g c (g'.setCaller c.id stage)

/-- Fetches do not touch the clock or the loops. -/
lemma FetchTurn.same {g g' : TaskState} {f : Fetch} (turn : g.FetchTurn f g') :
    g'.now = g.now ∧ g'.loops = g.loops := by cases turn <;> exact ⟨rfl, rfl⟩

/-- Callers do not touch the clock or the loops. -/
lemma CallerTurn.same {g g' : TaskState} {c : Caller} (turn : g.CallerTurn c g') :
    g'.now = g.now ∧ g'.loops = g.loops := by
  cases turn with
  | stays | served | declined => exact ⟨rfl, rfl⟩
  | admitted _ enters => cases enters <;> exact ⟨rfl, rfl⟩

end TaskState

/-- Whether the next round of each kind has brought nothing. -/
def IsAhead (t : Timeline σ) : Prop := ∀ kind, t.result? kind (t.store.nextRound kind) = none

lemma taskState_start (t : Timeline σ) (kind : RoundKind) (items : List String) :
    let fetch : Fetch := ⟨kind, t.store.nextRound kind, .begun items⟩
    ({ t with
        store := t.store.occupy kind
        fetches := t.fetches ++ [fetch] }.wake (.fetch kind (t.store.nextRound kind))).taskState
      = t.taskState.begin kind (t.store.nextRound kind) items := by
  intro fetch
  rw [taskState_wake]
  simp only [taskState, TaskState.begin, TaskState.wake, TaskState.mk.injEq, true_and, and_true]
  refine ⟨?_, ?_, rfl⟩
  · funext k
    cases k <;> rfl
  · funext k r
    exact Store.result?_occupy ..

/-- A call is declined, or it is admitted to a round. -/
lemma taskState_call (ahead : t.IsAhead) (kind : RoundKind) :
    ((t.call kind).1 = none ∧ (t.call kind).2.taskState = t.taskState) ∨
      ∃ round, (t.call kind).1 = some round ∧
        t.taskState.Enters kind round (t.call kind).2.taskState := by
  cases t.store.calls kind with
  | declined _ call =>
    refine .inl ?_
    cases kind with
    | list =>
      have same : t.call .list = (none, t) := by simp only [Timeline.call, call]
      rw [same]
      exact ⟨rfl, rfl⟩
    | names =>
      have same : t.call .names
          = (none, t.note (.warn "Node list not yet available, not fetching metric names")) := by
        simp only [Timeline.call, call]
      rw [same]
      exact ⟨rfl, rfl⟩
  | @joined round items _ _ call =>
    have same : t.call kind = (some round, t) := by simp only [Timeline.call, call]
    rw [same]
    exact .inr ⟨round, rfl, .joined⟩
  | @started items _ _ call =>
    have met : (t.call kind).1 = some (t.store.nextRound kind) := by
      simp only [Timeline.call, call]
    have begun : (t.call kind).2.taskState
      = t.taskState.begin kind (t.store.nextRound kind) items := by
      simp only [Timeline.call, call, taskState_start]
    exact .inr ⟨_, met, begun ▸ .started (ahead kind) items⟩

lemma taskState_beginRound (ahead : t.IsAhead) (id : Nat) (which : Poller.Which)
    (s : Poller.Schedule) (failed : Bool) :
    t.taskState.Begins id which s (t.beginRound id which s failed).taskState := by
  have called := taskState_call ahead (kindOf which)
  unfold beginRound
  generalize t.call (kindOf which) = met at called
  obtain ⟨met, after⟩ := met
  rcases called with ⟨rfl, same⟩ | ⟨round, rfl, enters⟩
  · have same : after.taskState = t.taskState := same
    have either : (if failed = true then after.fail which else after).taskState = t.taskState := by
      split <;> exact same
    simp only [taskState_setSchedule, either]
    exact .declined
  · exact .admitted enters failed

/-- The state of the tasks says nothing of the nodes. -/
lemma taskState_updateNodes (t : Timeline σ) (nodes : List String) :
    ({ t with store := t.store.updateNodes nodes }).taskState = t.taskState := by
  simp only [taskState, TaskState.mk.injEq, true_and, and_true]
  refine ⟨?_, ?_⟩
  · funext k
    cases k <;> rfl
  · funext k r
    cases k <;> rfl

lemma taskState_takeNodes (ahead : t.IsAhead) (id : Nat) (s : Poller.Schedule)
    (nodes : Except Api.Error (List String)) :
    t.taskState.Begins id .names s (t.takeNodes id s nodes).taskState := by
  unfold takeNodes
  split
  next nodes =>
    rw [← t.taskState_updateNodes nodes]
    exact taskState_beginRound (t := { t with store := t.store.updateNodes nodes })
      (fun kind => by cases kind with
        | list => exact ahead .list
        | names => exact ahead .names) ..
  next => exact taskState_beginRound (t := t.note _) ahead ..

lemma taskState_takeRound (t : Timeline σ) (id : Nat) (which : Poller.Which) (s : Poller.Schedule)
    (round : Nat) (failed : Bool) :
    ∃ again : Bool, (t.takeRound id which s round failed).taskState
      = (if again then t.taskState.wake (.loop id) else t.taskState).setSchedule id which
          { s with stage := .resting false } := by
  have seen := t.taskState_see (kindOf which) round
  unfold takeRound
  generalize t.see (kindOf which) round = look at seen
  obtain ⟨first, after⟩ := look
  have seen : after.taskState = t.taskState := seen
  refine ⟨first, ?_⟩
  cases first <;> cases failed <;> simp [seen]

/-- A schedule goes on in one of these ways, if only names schedules refresh the nodes. -/
lemma Turn.taskState (ahead : t.IsAhead) {l : Poller.Loop} {which : Poller.Which}
    (plain : ∀ until_ nodes, l.list.stage ≠ .refreshing until_ nodes)
    (turn : Turn S t l which t') : t.taskState.Turn l which t'.taskState := by
  cases turn with
  | stops cancelled running => exact .stops cancelled running
  | ticks live resting due =>
    let ticking : Timeline σ := { t with stats := t.stats.tick which }
    unfold tick
    cases which with
    | list => exact .ticks live resting due (taskState_beginRound (t := ticking) ahead ..)
    | names =>
      dsimp only
      split
      · let question := S.nodes t.source t.store.session t.now
        let after : Timeline σ := { ticking with source := question.state }.noteAll question.notes
        have same : after.taskState = t.taskState := taskState_noteAll _ _
        have ahead' : after.IsAhead := by
          have stored : after.store = t.store := by simp [after, noteAll_eq, ticking]
          intro kind
          rw [result?, stored]
          exact ahead kind
        split
        · have begins := taskState_takeNodes ahead' l.id
            (t.taskState.ticked l.names) question.answer.reply
          rw [same] at begins
          exact .ticks live resting due begins
        next later =>
          have soon : t.taskState.now < after.now + question.answer.delay := by
            rw [← same]
            exact Nat.lt_add_of_pos_right (Nat.pos_of_ne_zero later)
          have turn := TaskState.Turn.refreshes live resting due rfl soon question.answer.reply
          rw [taskState_arm, taskState_setSchedule, same]
          exact turn
      · exact .ticks live resting due (taskState_beginRound (t := ticking) ahead ..)
  | arms live resting early => exact .arms live resting early
  | takesNodes live refreshing arrived =>
    cases which with
    | list => exact absurd refreshing (plain _ _)
    | names => exact .takesNodes live refreshing arrived (taskState_takeNodes ahead ..)
  | @takesRound round failed bad notes live inRound judged =>
    obtain ⟨again, same⟩ :=
      taskState_takeRound (t.noteAll notes) l.id which (l.schedule which) round
      (failed || bad)
    rw [same, taskState_noteAll]
    refine .takesRound live inRound ?_ again
    intro pending
    rw [judge_eq_none.mpr pending] at judged
    cases judged

/-! ### Fetches and callers -/

lemma taskState_awaitAnswers (t : Timeline σ) (f : Fetch) {g : Gathered} (ofKind : g.kind = f.kind)
    (delay : Nat) : t.taskState.FetchTurn f (t.awaitAnswers f.kind f.round g delay).taskState := by
  unfold awaitAnswers
  split
  · rw [taskState_endRound _ _ _ ofKind]
    exact .ends _
  next later => exact .waits (Nat.lt_add_of_pos_right (Nat.pos_of_ne_zero later)) g

/-- A fetch goes on in one of these ways, if its answers are of its kind. -/
lemma FetchTurn.taskState {f : Fetch} (ofKind : ∀ g, f.stage.gathered? = some g → g.kind = f.kind)
    (turn : FetchTurn S t f t') : t.taskState.FetchTurn f t'.taskState := by
  cases turn with
  | stays patient => exact .stays patient
  | @holds items _ closed =>
    rw [taskState_setStage, taskState_asked]
    have same : (asked S t f.kind items).taskState.isOpen f.kind = t.taskState.isOpen f.kind := by
      rw [taskState_asked]
    exact .holds (same ▸ closed) _ _
  | @hears items begun =>
    have turn := taskState_awaitAnswers (asked S t f.kind items) f (kind_ask S t f.kind items)
      (ask S t f.kind items).2.1
    rwa [taskState_asked] at turn
  | freed held => exact taskState_awaitAnswers t f (ofKind _ (by rw [held]; rfl)) _
  | ends waiting =>
    rw [taskState_endRound _ _ _ (ofKind _ (by rw [waiting]; rfl))]
    exact .ends _

lemma TaskState.setCaller_setCaller (g : TaskState) (id : Nat) (first last : CallerStage) :
    (g.setCaller id first).setCaller id last = g.setCaller id last := by
  simp only [setCaller, mk.injEq, List.map_map, true_and, and_true]
  refine List.map_congr_left fun c _ => ?_
  by_cases own : c.id = id <;> simp [own]

/-- A caller is gone, or it goes on in one of these ways. -/
lemma taskState_stepCaller (ahead : t.IsAhead) (id : Nat) :
    (t.stepCaller id = t ∧ ∀ c ∈ t.callers, c.id ≠ id) ∨
      ∃ c ∈ t.callers, c.id = id ∧ t.taskState.CallerTurn c (t.stepCaller id).taskState := by
  cases found : t.callers.find? (fun c => c.id = id) with
  | none =>
    refine .inl ⟨by rw [stepCaller, found], ?_⟩
    simpa [List.find?_eq_none] using found
  | some c =>
    have isThere := List.mem_of_find?_eq_some found
    obtain rfl : c.id = id := by simpa using List.find?_some found
    refine .inr ⟨c, isThere, rfl, ?_⟩
    rw [stepCaller, found]
    dsimp only
    cases stage : c.stage with
    | begun =>
      have called := taskState_call ahead c.kind
      generalize t.call c.kind = met at called
      obtain ⟨met, after⟩ := met
      rcases called with ⟨rfl, same⟩ | ⟨round, rfl, enters⟩
      · have same : after.taskState = t.taskState := same
        simp only [taskState_setCaller, same]
        exact .declined stage _
      · dsimp only [lookAt]
        cases ended : (after.setCaller c.id (afterCall c.kind (some round))).result? c.kind round with
        | none => exact .admitted stage enters (.inl ⟨rfl, ended⟩)
        | some result =>
          simp only [taskState_setCaller, taskState_see, TaskState.setCaller_setCaller]
          exact .admitted stage enters (.inr ⟨result, rfl⟩)
    | waiting round =>
      dsimp only [lookAt]
      cases ended : t.result? c.kind round with
      | none => exact .stays (.inr (.inr ⟨round, stage, ended⟩))
      | some result =>
        simp only [taskState_setCaller, taskState_see]
        exact .served stage
    | finished result => exact .stays (.inl ⟨result, stage⟩)
    | aborted => exact .stays (.inr (.inl stage))

end MetricWatch.Timeline
