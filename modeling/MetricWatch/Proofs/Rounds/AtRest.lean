import MetricWatch.Proofs.Rounds.Orderly

/-!
# A list round on a timeline at rest

Where nothing else goes on, a call for metrics asks the source once, waits for as long as the answer
takes and gets what the round brings. The main statement is `AtRest.waitUntil_list`.
-/

namespace MetricWatch.Timeline

variable {σ : Type} {S : Source σ} {t : Timeline σ}

/-- Nothing goes on on a timeline: no task is ready or will be, nothing is fetched and nobody
waits. -/
structure AtRest (t : Timeline σ) : Prop where
  ready : t.ready = []
  timers : t.timers = []
  fetches : t.fetches = []
  nobody : ∀ kind round, t.awaiting kind round = []

/-- Where one task is ready and makes no other one ready, it alone goes on. -/
lemma settle_single {task : TaskId} (ready : t.ready = [task])
    (after : ({ t with ready := [] }.step S task).ready = []) :
    t.settle S = { t with ready := [] }.step S task := by
  obtain ⟨fuel, enough⟩ : ∃ fuel, t.settleFuel = fuel + 2 :=
    ⟨t.settleFuel - 2, by simp only [settleFuel]; omega⟩
  have next : t.next S = { t with ready := [] }.step S task := by rw [Timeline.next, ready]
  rw [settle, enough, settleWithin, ready, settleWithin, next, after]
  rfl

/-- The end of the only round, for which nobody waits in the background. -/
lemma endRound_alone {round : Nat} {stage : FetchStage}
    (only : t.fetches = [⟨.list, round, stage⟩]) (nobody : t.awaiting .list round = [])
    (g : Gathered) :
    ∃ unseen notes, t.endRound .list round g
      = { t with
          store := conclude t.store round t.now g
          fetches := []
          unseen := unseen
          notes := notes } := by
  refine ⟨(t.endRound .list round g).unseen, (t.endRound .list round g).notes, ?_⟩
  simp [endRound, nobody, wakeAll, noteAll_eq, only]

/-- Whoever waits for something that holds as soon as tasks have gone on waits no longer. -/
lemma waitWithin_at_once {holds : Timeline σ → Bool} {limit moves : Nat}
    (held : holds (t.settle S) = true) :
    waitWithin S holds limit (moves + 1) t = (true, t.settle S) := by
  simp only [waitWithin, held, if_true]

/-- Whoever waits for something that does not hold yet waits until the next timer. -/
lemma waitWithin_timer {holds : Timeline σ → Bool} {limit moves : Nat} {timer : Timer}
    (notYet : holds (t.settle S) = false) (only : (t.settle S).timers = [timer])
    (inTime : timer.due ≤ limit) : waitWithin S holds limit (moves + 1) t
      = waitWithin S holds limit moves ((t.settle S).moveTo timer.due) := by
  rw [waitWithin]
  simp only [notYet, only, inTime, if_true]
  rfl

/-! ### From the call to the end -/

/-- What the source would do now if it were asked for metrics. -/
def wouldAsk (S : Source σ) (t : Timeline σ) (names : List String) : Asked σ (Reply ClusterAnswer) :=
  S.metrics t.source t.store.session t.now names

lemma ask_list (S : Source σ) (t : Timeline σ) (names : List String) :
    (ask S t .list names).1 = .list (t.wouldAsk S names).answer.reply ∧
      (ask S t .list names).2.2.2.source = (t.wouldAsk S names).state := by
  refine ⟨rfl, ?_⟩
  simp [ask, askMetrics, noteAll_eq, wouldAsk]

/-- A timeline at rest after a call that starts a list round. -/
def calledList (t : Timeline σ) (names : List String) : Timeline σ :=
  { t with
    store := t.store.occupy .list
    fetches := [⟨.list, t.store.nextRound .list, .begun names⟩]
    ready := [.fetch .list (t.store.nextRound .list)] }

/-- The timeline when the round has asked the source. -/
def askedList (S : Source σ) (t : Timeline σ) (names : List String) (stage : FetchStage) :
    Timeline σ :=
  { t with
    store := t.store.occupy .list
    fetches := [⟨.list, t.store.nextRound .list, stage⟩]
    source := (t.wouldAsk S names).state
    questions := (t.now, .metrics names) :: t.questions
    notes := (t.wouldAsk S names).notes.reverse ++ t.notes }

/-- The timeline while the answer is on its way. -/
def awaitedList (S : Source σ) (t : Timeline σ) (names : List String) : Timeline σ :=
  let arrival := t.now + (t.wouldAsk S names).answer.delay
  { t.askedList S names (.waiting (.list (t.wouldAsk S names).answer.reply) arrival) with
    timers := [⟨arrival, .fetch .list (t.store.nextRound .list)⟩] }

/-- The timeline when the round has ended. -/
def endedList (S : Source σ) (t : Timeline σ) (names : List String)
    (unseen : List (RoundKind × Nat)) (notes : List Note) : Timeline σ :=
  let arrival := t.now + (t.wouldAsk S names).answer.delay
  { t with
    now := arrival
    store := conclude (t.store.occupy .list) (t.store.nextRound .list) arrival
      (.list (t.wouldAsk S names).answer.reply)
    source := (t.wouldAsk S names).state
    questions := (t.now, .metrics names) :: t.questions
    unseen := unseen
    notes := notes }

/-- What those get who waited for the round. -/
lemma resultOf_endedList (names : List String) (unseen : List (RoundKind × Nat))
    (notes : List Note) :
    (t.endedList S names unseen notes).resultOf .list (some (t.store.nextRound .list))
      = ending (t.store.occupy .list) (t.store.nextRound .list)
          (t.now + (t.wouldAsk S names).answer.delay)
          (.list (t.wouldAsk S names).answer.reply) := by
  simp [resultOf, result?, endedList, result?_conclude, Gathered.kind]

namespace AtRest

variable (rest : t.AtRest) (S) (names : List String)

include rest

/-- The call starts a round and readies its fetch. -/
lemma call_list (admitted : t.store.items? .list = some names)
    (vacant : t.store.occupant .list = none) :
    t.call .list = (some (t.store.nextRound .list), t.calledList names) := by
  cases t.store.calls .list with
  | declined refused =>
    rw [refused] at admitted
    cases admitted
  | joined _ occupied =>
    rw [vacant] at occupied
    cases occupied
  | started admitted' _ call =>
    obtain rfl := Option.some.inj (admitted.symm.trans admitted')
    simp [Timeline.call, call, calledList, rest.fetches, wake, rest.ready]

/-- The fetch asks the source. -/
lemma step_called (isOpen : t.listOpen = true) :
    ({ t.calledList names with ready := [] } : Timeline σ).step S
        (.fetch .list (t.store.nextRound .list))
      = (t.askedList S names (.begun names)).awaitAnswers .list (t.store.nextRound .list)
          (.list (t.wouldAsk S names).answer.reply) (t.wouldAsk S names).answer.delay := by
  simp [step, stepFetch, calledList, ask, askMetrics, noteAll_eq, Timeline.isOpen, isOpen,
    askedList, rest.ready]
  rfl

/-- The round ends when its answer has arrived. -/
lemma endRound_asked (stage : FetchStage) :
    ∃ unseen notes, ({ t.askedList S names stage with
        now := t.now + (t.wouldAsk S names).answer.delay } : Timeline σ).endRound .list
          (t.store.nextRound .list) (.list (t.wouldAsk S names).answer.reply)
      = t.endedList S names unseen notes := by
  obtain ⟨unseen, notes, ended⟩ := endRound_alone
    (t := { t.askedList S names stage with now := t.now + (t.wouldAsk S names).answer.delay })
    rfl (rest.nobody .list _) (.list (t.wouldAsk S names).answer.reply)
  refine ⟨unseen, notes, ended.trans ?_⟩
  simp [askedList, endedList, rest.fetches]

/-- Without a delay the round ends before anything else happens. -/
lemma settle_at_once (isOpen : t.listOpen = true) (atOnce : (t.wouldAsk S names).answer.delay = 0) :
    ∃ unseen notes, (t.calledList names).settle S = t.endedList S names unseen notes := by
  obtain ⟨unseen, notes, ended⟩ := rest.endRound_asked S names (.begun names)
  rw [atOnce] at ended
  have stepped := rest.step_called S names isOpen
  rw [awaitAnswers, if_pos atOnce] at stepped
  replace stepped := stepped.trans ended
  refine ⟨unseen, notes, ?_⟩
  rw [← stepped]
  apply settle_single rfl
  rw [stepped]
  exact rest.ready

/-- With a delay the fetch waits for it. -/
lemma settle_later (isOpen : t.listOpen = true) (later : (t.wouldAsk S names).answer.delay ≠ 0) :
    (t.calledList names).settle S = t.awaitedList S names := by
  have stepped := rest.step_called S names isOpen
  rw [awaitAnswers, if_neg later] at stepped
  rw [settle_single rfl (by rw [stepped]; exact rest.ready), stepped]
  simp [awaitedList, askedList, setStage, arm, rest.timers, insertTimer]

/-- When its time has come the fetch lets the round end. -/
lemma settle_due : ∃ unseen notes,
    ((t.awaitedList S names).moveTo (t.now + (t.wouldAsk S names).answer.delay)).settle S
      = t.endedList S names unseen notes := by
  let arrival := t.now + (t.wouldAsk S names).answer.delay
  let stage : FetchStage := .waiting (.list (t.wouldAsk S names).answer.reply) arrival
  obtain ⟨unseen, notes, ended⟩ := rest.endRound_asked S names stage
  have moved : (t.awaitedList S names).moveTo arrival = { t.askedList S names stage with
      now := arrival
      ready := [.fetch .list (t.store.nextRound .list)] } := by
    simp [moveTo, awaitedList, askedList, rest.timers, rest.ready, wakeAll, wake, stage, arrival]
  have stepped : ({ t.askedList S names stage with
      now := arrival
      ready := [] } : Timeline σ).step S (.fetch .list (t.store.nextRound .list))
        = t.endedList S names unseen notes := by
    rw [← ended]
    simp [step, stepFetch, askedList, stage, arrival, rest.ready]
  refine ⟨unseen, notes, ?_⟩
  rw [moved, ← stepped]
  apply settle_single rfl
  rw [stepped]
  exact rest.ready

/-- Whoever calls for metrics at rest and waits for as long as the answer takes gets what the round
brings, and everything is at rest again. -/
theorem waitUntil_list (admitted : t.store.items? .list = some names)
    (vacant : t.store.occupant .list = none)
    (notYet : t.result? .list (t.store.nextRound .list) = none) (isOpen : t.listOpen = true)
    {patience : Nat} (enough : (t.wouldAsk S names).answer.delay ≤ patience) :
    ∃ unseen notes, (t.call .list).2.waitUntil S (·.isOver .list (t.call .list).1) patience
      = (true, t.endedList S names unseen notes) := by
  rw [rest.call_list names admitted vacant]
  let holds (t' : Timeline σ) : Bool := t'.isOver .list (some (t.store.nextRound .list))
  have isOver (unseen : List (RoundKind × Nat)) (notes : List Note) :
      holds (t.endedList S names unseen notes) = true := by
    simp [holds, Timeline.isOver, result?, endedList, result?_conclude, Gathered.kind]
  have waits : (t.calledList names).waitUntil S holds patience
      = waitWithin S holds (t.now + patience) (patience + 1 + 1) (t.calledList names) := by
    simp [waitUntil, calledList, rest.timers]
  change ∃ unseen notes, (t.calledList names).waitUntil S holds patience = _
  rw [waits]
  -- Without a delay the round is over before the clock moves, with one it takes a timer.
  by_cases atOnce : (t.wouldAsk S names).answer.delay = 0
  · obtain ⟨unseen, notes, settled⟩ := rest.settle_at_once S names isOpen atOnce
    refine ⟨unseen, notes, ?_⟩
    rw [waitWithin_at_once (settled ▸ isOver unseen notes), settled]
  · have settled := rest.settle_later S names isOpen atOnce
    obtain ⟨unseen, notes, due⟩ := rest.settle_due S names
    have still : holds (t.awaitedList S names) = false := by
      have unknown : (t.store.occupy .list).result? .list (t.store.nextRound .list) = none := by
        rw [Store.result?_occupy]
        exact notYet
      simp [holds, Timeline.isOver, result?, awaitedList, askedList, unknown]
    refine ⟨unseen, notes, ?_⟩
    rw [waitWithin_timer (settled ▸ still) (by rw [settled]; rfl)
      (Nat.add_le_add_left enough t.now), settled, waitWithin_at_once (due ▸ isOver unseen notes), due]

/-- After the round everything is at rest again. -/
lemma endedList (unseen : List (RoundKind × Nat)) (notes : List Note) :
    (t.endedList S names unseen notes).AtRest :=
  ⟨rest.ready, rest.timers, rest.fetches, rest.nobody⟩

end AtRest

end MetricWatch.Timeline
