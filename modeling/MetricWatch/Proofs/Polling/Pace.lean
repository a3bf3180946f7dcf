import MetricWatch.Proofs.Polling.Course

/-!
# The pace of a schedule

A schedule polls no faster than its period, however long its polls take and however late they come,
and no poll begins before the one before has ended. If all of them end within their period, they
begin on the dot. What carries it over all delays is when the next tick is due: however late a tick
comes, it moves its due time on by a period or more. The main statement is `Course.paced`.
-/

namespace MetricWatch

/-! ### Polls -/

/-- A poll of a schedule: when it began, and when it ended if it has. -/
structure Poll where
  began : Nat
  ended : Option Nat

namespace Poll

/-- Whether a poll has not taken longer than a period, if it has ended. -/
def IsQuick (period : Nat) (poll : Poll) : Prop :=
  ∀ time, poll.ended = some time → time ≤ poll.began + period

/-- The polls of a schedule, latest first, after the last one ended. -/
def endLast (now : Nat) : List Poll → List Poll
  | [] => []
  | last :: earlier => { last with ended := some now } :: earlier

/-- The polls of a schedule, latest first, after it passed from stage to stage. A poll begins with a
tick, which moves the due time on, and ends when the schedule rests again. -/
def record (now : Nat) (s s' : Poller.Schedule) (polls : List Poll) : List Poll :=
  match s.stage, s'.stage with
  | .resting _, .resting _ => if s'.due = s.due then polls else ⟨now, some now⟩ :: polls
  | .resting _, .refreshing _ _ | .resting _, .inRound _ _ => ⟨now, none⟩ :: polls
  | .refreshing _ _, .resting _ | .inRound _ _, .resting _ => endLast now polls
  | _, _ => polls

end Poll

open Poll (record endLast)

/-! ### The invariant -/

/-- Polls that keep to a period from a start: none begins before its time or before the one before
has ended, and as long as all before it were quick, it begins on the dot. -/
inductive Spaced (start period now : Nat) : List Poll → Prop
  | nil : Spaced start period now []
  | cons {poll : Poll} {polls : List Poll} (earlier : Spaced start period now polls)
      (notBefore : start + polls.length * period ≤ poll.began)
      (after : ∀ last ∈ polls.head?, ∃ time, last.ended = some time ∧ time ≤ poll.began)
      (onTheDot : (∀ last ∈ polls, last.IsQuick period) →
        poll.began = start + polls.length * period)
      (begun : poll.began ≤ now) (gone : ∀ time, poll.ended = some time → time ≤ now) :
      Spaced start period now (poll :: polls)

/-- How a schedule stands to its polls. While it rests they have all ended; while it does not, the
last one has not. Its next tick is not due before its time, and as long as all polls were quick, it
is due on the dot and not overdue. -/
structure InStep (start period now : Nat) (polls : List Poll) (cancelled : Bool)
    (s : Poller.Schedule) : Prop where
  period_eq : s.period = period
  due : start + polls.length * period ≤ s.due
  stage : match s.stage with
    | .resting _ =>
      (∀ last ∈ polls.head?, ∃ time, last.ended = some time ∧ time ≤ now) ∧
        ((∀ poll ∈ polls, poll.IsQuick period) →
          s.due = start + polls.length * period ∧ (cancelled = false → now ≤ s.due))
    | .refreshing _ _ | .inRound _ _ => ∃ began earlier, polls = ⟨began, none⟩ :: earlier ∧
        ((∀ poll ∈ earlier, poll.IsQuick period) → s.due = start + polls.length * period)
    | .stopped => cancelled = true

variable {start period now : Nat} {polls : List Poll} {cancelled : Bool} {s s' : Poller.Schedule}

namespace Spaced

lemma later (h : Spaced start period now polls) {time : Nat} (later : now ≤ time) :
    Spaced start period time polls := by
  induction h with
  | nil => exact .nil
  | cons _ notBefore after onTheDot begun gone ih =>
    exact ih.cons notBefore after onTheDot (begun.trans later)
      fun time ended => (gone time ended).trans later

/-- A poll that begins now does so in time if its tick was due. -/
lemma begin (h : Spaced start period now polls) (inStep : InStep start period now polls false s)
    {armed : Bool} (resting : s.stage = .resting armed) (due : s.due ≤ now) :
    Spaced start period now (⟨now, none⟩ :: polls) := by
  have stage := inStep.stage
  rw [resting] at stage
  obtain ⟨allEnded, prompt⟩ := stage
  refine h.cons (inStep.due.trans due) allEnded (fun quick => ?_) (Nat.le_refl _) nofun
  obtain ⟨dueOn, notOverdue⟩ := prompt quick
  rw [← dueOn]
  exact Nat.le_antisymm (notOverdue rfl) due

lemma endLast {began : Nat} {earlier : List Poll}
    (h : Spaced start period now (⟨began, none⟩ :: earlier)) :
    Spaced start period now (⟨began, some now⟩ :: earlier) := by
  cases h with
  | cons rest notBefore after onTheDot begun _ =>
    exact rest.cons notBefore after onTheDot begun
      fun time same => Nat.le_of_eq (Option.some.inj same).symm

end Spaced

namespace InStep

/-- While a schedule rests, the clock does not move past its tick. -/
lemma later (h : InStep start period now polls cancelled s) {time : Nat} {cancelled' : Bool}
    (later : now ≤ time) (live : cancelled' = false → cancelled = false)
    (punctual : cancelled = false → ∀ armed, s.stage = .resting armed → time ≤ max now s.due) :
    InStep start period time polls cancelled' s := by
  refine ⟨h.period_eq, h.due, ?_⟩
  have stage := h.stage
  cases resting : s.stage with
  | resting armed =>
    rw [resting] at stage
    obtain ⟨allEnded, prompt⟩ := stage
    refine ⟨fun last mem => ?_, fun quick => ?_⟩
    · obtain ⟨closing, ended, past⟩ := allEnded last mem
      exact ⟨closing, ended, past.trans later⟩
    · obtain ⟨dueOn, notOverdue⟩ := prompt quick
      refine ⟨dueOn, fun isLive => ?_⟩
      have notPast := punctual (live isLive) armed resting
      rwa [Nat.max_eq_right (notOverdue (live isLive))] at notPast
  | refreshing | inRound =>
    rw [resting] at stage
    exact stage
  | stopped =>
    rw [resting] at stage
    by_contra isLive
    have stillLive := live (by simpa using isLive)
    rw [stage] at stillLive
    cases stillLive

/-- A tick that is due moves the due time on by a period, and exactly by one if it is not late. -/
lemma due_nextDue (h : InStep start period now polls false s) {armed : Bool}
    (resting : s.stage = .resting armed) (due : s.due ≤ now) :
    start + (polls.length + 1) * period ≤ Poller.nextDue s.period s.due now ∧
      ((∀ poll ∈ polls, poll.IsQuick period) →
        Poller.nextDue s.period s.due now = start + (polls.length + 1) * period) := by
  have stage := h.stage
  rw [resting] at stage
  obtain ⟨-, prompt⟩ := stage
  have next := Poller.le_nextDue s.period s.due now
  have least := h.due
  rw [h.period_eq] at next ⊢
  rw [Nat.succ_mul]
  refine ⟨by omega, fun quick => ?_⟩
  obtain ⟨dueOn, notOverdue⟩ := prompt quick
  have now' := notOverdue rfl
  have same : s.due = now := by omega
  rw [same, Poller.nextDue, if_neg (Nat.not_lt_of_le (Nat.le_add_right _ _))]
  omega

/-- A schedule rests again when its last poll has ended. -/
lemma rests {began : Nat} {earlier : List Poll}
    (spaced : Spaced start period now (⟨began, none⟩ :: earlier))
    (h : InStep start period now (⟨began, none⟩ :: earlier) false s)
    (dueOn : (∀ poll ∈ earlier, poll.IsQuick period) →
      s.due = start + (earlier.length + 1) * period) :
    Spaced start period now (⟨began, some now⟩ :: earlier) ∧
      InStep start period now (⟨began, some now⟩ :: earlier) false
        { s with stage := .resting false } := by
  refine ⟨spaced.endLast, h.period_eq, h.due, ?_, fun quick => ?_⟩
  · intro last mem
    obtain rfl := Option.some.inj mem
    exact ⟨now, rfl, Nat.le_refl _⟩
  · have earlierQuick : ∀ poll ∈ earlier, poll.IsQuick period :=
      fun poll mem => quick poll (List.mem_cons_of_mem _ mem)
    have soon : now ≤ began + period := quick _ List.mem_cons_self now rfl
    have onTheDot : began = start + earlier.length * period := by
      cases spaced with
      | cons _ _ _ onTheDot => exact onTheDot earlierQuick
    refine ⟨dueOn earlierQuick, fun _ => ?_⟩
    change now ≤ s.due
    rw [dueOn earlierQuick, Nat.succ_mul]
    omega

/-- With a tick that is due a poll begins, and it ends at once if its call is declined. -/
lemma ticks (spaced : Spaced start period now polls) (period_pos : 1 ≤ period)
    (h : InStep start period now polls false s) {armed : Bool} (resting : s.stage = .resting armed)
    (due : s.due ≤ now) {stage : Poller.Stage}
    (next : stage = .resting false ∨ (∃ round failed, stage = .inRound round failed) ∨
      ∃ until_ nodes, stage = .refreshing until_ nodes) :
    let s' : Poller.Schedule := ⟨s.period, Poller.nextDue s.period s.due now, stage⟩
    Spaced start period now (record now s s' polls) ∧
      InStep start period now (record now s s' polls) false s' := by
  intro s'
  obtain ⟨later, dueOn⟩ := h.due_nextDue resting due
  have begun : Spaced start period now (⟨now, none⟩ :: polls) := spaced.begin h resting due
  have busy : InStep start period now (⟨now, none⟩ :: polls) false { s' with stage := .inRound 0 false } :=
    ⟨h.period_eq, later, now, polls, rfl, dueOn⟩
  unfold record
  rw [resting]
  rcases next with rfl | ⟨round, failed, rfl⟩ | ⟨until_, nodes, rfl⟩
  · have moved : s'.due ≠ s.due := by
      have next := Poller.le_nextDue s.period s.due now
      have period_eq := h.period_eq
      change Poller.nextDue s.period s.due now ≠ s.due
      omega
    rw [if_neg moved]
    exact rests begun busy dueOn
  · exact ⟨begun, busy.period_eq, busy.due, busy.stage⟩
  · exact ⟨begun, busy.period_eq, busy.due, busy.stage⟩

end InStep

/-- A schedule that passes from stage to stage stays in step. -/
lemma InStep.passes (spaced : Spaced start period now polls) (period_pos : 1 ≤ period)
    (h : InStep start period now polls cancelled s) (passes : Passes now cancelled s s') :
    Spaced start period now (record now s s' polls) ∧
      InStep start period now (record now s s' polls) cancelled s' := by
  have stage := h.stage
  cases passes with
  | stops isCancelled running =>
    have same : record now s { s with stage := .stopped } polls = polls := by
      unfold record
      cases s.stage <;> rfl
    rw [same]
    exact ⟨spaced, h.period_eq, h.due, isCancelled⟩
  | ticks live resting due next =>
    subst live
    exact h.ticks spaced period_pos resting due next
  | arms live resting =>
    have same : record now s { s with stage := .resting true } polls = polls := by
      unfold record
      rw [resting]
      exact if_pos rfl
    rw [same]
    rw [resting] at stage
    exact ⟨spaced, h.period_eq, h.due, stage⟩
  | takesNodes live refreshing next =>
    subst live
    unfold record
    rw [refreshing] at stage ⊢
    obtain ⟨began, earlier, rfl, dueOn⟩ := stage
    rcases next with rfl | ⟨round, failed, rfl⟩
    · exact h.rests spaced dueOn
    · exact ⟨spaced, h.period_eq, h.due, began, earlier, rfl, dueOn⟩
  | takesRound live inRound =>
    subst live
    unfold record
    rw [inRound] at stage ⊢
    obtain ⟨began, earlier, rfl, dueOn⟩ := stage
    exact h.rests spaced dueOn

/-! ### What the invariant says -/

/-- The polls of a schedule that keep pace with a period, latest first. -/
structure Paced (start period now : Nat) (live : Prop) (polls : List Poll) : Prop where
  /-- No poll begins before as many periods have passed as there were polls before it. -/
  notBefore : ∀ poll earlier, poll :: earlier <:+ polls → start + earlier.length * period ≤ poll.began
  /-- No poll begins before the one before it has ended. -/
  afterLast : ∀ poll last earlier, poll :: last :: earlier <:+ polls →
    ∃ time, last.ended = some time ∧ time ≤ poll.began
  /-- Within any time, no more polls begin than periods have, the one just begun included. -/
  rate : ∀ within, polls.countP (fun poll => poll.began ≤ start + within) ≤ within / period + 1
  /-- A poll begins on the dot if all before it ended within their period. -/
  onTheDot : ∀ poll earlier, poll :: earlier <:+ polls →
    (∀ last ∈ earlier, last.IsQuick period) → poll.began = start + earlier.length * period
  /-- As long as all polls end within their period, the next one is not overdue. -/
  notOverdue : live → (∀ poll ∈ polls, poll.ended.getD now ≤ poll.began + period) →
    now ≤ start + polls.length * period

namespace Spaced

lemma suffix (h : Spaced start period now polls) {some : List Poll} (suffix : some <:+ polls) :
    Spaced start period now some := by
  induction h with
  | nil => exact List.suffix_nil.mp suffix ▸ .nil
  | cons earlier notBefore after onTheDot begun gone ih =>
    rcases List.suffix_cons_iff.mp suffix with rfl | shorter
    · exact earlier.cons notBefore after onTheDot begun gone
    · exact ih shorter

lemma rate (h : Spaced start period now polls) (period_pos : 1 ≤ period) (within : Nat) :
    polls.countP (fun poll => poll.began ≤ start + within) ≤ within / period + 1 := by
  induction h with
  | nil => simp
  | @cons poll polls _ notBefore _ _ _ _ ih =>
    by_cases soon : poll.began ≤ start + within
    · have few : polls.length ≤ within / period := by
        rw [Nat.le_div_iff_mul_le period_pos]
        omega
      have all := List.countP_le_length (p := fun poll : Poll => poll.began ≤ start + within) (l := polls)
      rw [List.countP_cons_of_pos (by simpa using soon)]
      omega
    · rw [List.countP_cons_of_neg (by simpa using soon)]
      exact ih

/-- Polls that are spaced keep pace, and their schedule is not overdue if it is in step. -/
lemma keepsPace (h : Spaced start period now polls) (period_pos : 1 ≤ period) {live : Prop}
    (inStep : live → ∃ s, InStep start period now polls false s) :
    Paced start period now live polls := by
  refine ⟨fun poll earlier suffix => ?_, fun poll last earlier suffix => ?_, h.rate period_pos,
    fun poll earlier suffix => ?_, fun isLive quick => ?_⟩
  · cases h.suffix suffix with
    | cons _ notBefore => exact notBefore
  · cases h.suffix suffix with
    | cons _ _ after => exact after last rfl
  · cases h.suffix suffix with
    | cons _ _ _ onTheDot => exact onTheDot
  · have ended : ∀ poll ∈ polls, poll.IsQuick period := by
      intro poll mem time ended
      have soon := quick poll mem
      rwa [ended] at soon
    obtain ⟨s, inStep⟩ := inStep isLive
    have stage := inStep.stage
    cases resting : s.stage with
    | resting armed =>
      rw [resting] at stage
      obtain ⟨dueOn, notOverdue⟩ := stage.2 ended
      exact dueOn ▸ notOverdue rfl
    | refreshing | inRound =>
      rw [resting] at stage
      obtain ⟨began, earlier, rfl, -⟩ := stage
      cases h with
      | cons _ _ _ onTheDot =>
        have onTime : began = start + earlier.length * period :=
          onTheDot fun poll mem => ended poll (List.mem_cons_of_mem _ mem)
        have soon : now ≤ began + period := quick _ List.mem_cons_self
        rw [List.length_cons, Nat.succ_mul]
        omega
    | stopped =>
      rw [resting] at stage
      cases stage

end Spaced

/-! ### The polls of a loop -/

/-- The interval of one of the schedules. -/
def Poller.Timing.interval (timing : Poller.Timing) : Poller.Which → Nat
  | .list => timing.listEvery
  | .names => timing.namesEvery

namespace Timeline

variable {σ : Type} {S : Source σ} {t₀ t t' : Timeline σ} {p : Poller} {which : Poller.Which}
  {id : Nat}

/-- Whether a loop's schedule is left as it is, at the same time. -/
structure Undisturbed (id : Nat) (which : Poller.Which) (t t' : Timeline σ) : Prop where
  now : t'.now = t.now
  loop : ∀ l', t'.loop? id = some l' → ∃ l, t.loop? id = some l ∧
    l'.schedule which = l.schedule which ∧ (l'.cancelled = false → l.cancelled = false)

/-- The polls, latest first, of a schedule of the loop that a start begins: its turns are recorded,
whatever else happens at the time leaves the schedule as it is, and the clock moves on where no task
is ready, and no further than to the next timer. -/
inductive Polled (S : Source σ) (t₀ : Timeline σ) (which : Poller.Which) :
    List Poll → Timeline σ → Prop
  | start : Polled S t₀ which [] t₀.startPoller.2
  | turn {polls : List Poll} {t t' : Timeline σ} {l l' : Poller.Loop}
      (before : Polled S t₀ which polls t) (sound : Sound S t) (found : t.loop? t₀.loopCount = some l)
      (stepped : t.stepSchedule S t₀.loopCount which = some t')
      (found' : t'.loop? t₀.loopCount = some l') :
      Polled S t₀ which (record t.now (l.schedule which) (l'.schedule which) polls) t'
  | between {polls : List Poll} {t t' : Timeline σ} (before : Polled S t₀ which polls t)
      (undisturbed : Undisturbed t₀.loopCount which t t') : Polled S t₀ which polls t'
  | wait {polls : List Poll} {t : Timeline σ} (before : Polled S t₀ which polls t)
      (attentive : Attentive S t) (rest : t.ready = []) {time : Nat}
      (soon : ∀ timer ∈ t.timers, time ≤ timer.due) : Polled S t₀ which polls (t.moveTo time)

/-- A start of a poller that is not running begins a loop whose schedules tick at once. -/
lemma loop?_startPoller (sound : Sound S t₀) (poller : t₀.poller = some p)
    (idle : t₀.isRunning = false) :
    t₀.startPoller.2.now = t₀.now ∧
      t₀.startPoller.2.loop? t₀.loopCount = some (newLoop t₀ p) := by
  rw [startPoller_of_idle poller idle]
  have taskState := taskState_beginLoop (t₀.note (.info "Starting metrics poller")) p
  have loops : ((t₀.note (.info "Starting metrics poller")).beginLoop p).loops
      = t₀.loops ++ [newLoop t₀ p] := congrArg TaskState.loops taskState
  refine ⟨congrArg TaskState.now taskState, ?_⟩
  rw [loop?, loops, List.find?_append]
  have unused : t₀.loops.find? (fun l => l.id = t₀.loopCount) = none := by
    refine List.find?_eq_none.mpr fun l mem => ?_
    simpa using Nat.ne_of_lt (sound.numbered l mem)
  rw [unused]
  simp [newLoop]

/-- The clock does not move past the tick of a schedule that rests. -/
lemma Attentive.le_due (h : Attentive S t) (rest : t.ready = []) {time : Nat}
    (soon : ∀ timer ∈ t.timers, time ≤ timer.due) {l : Poller.Loop} (isThere : l ∈ t.loops)
    {armed : Bool} (resting : (l.schedule which).stage = .resting armed) :
    time ≤ (l.schedule which).due := by
  have atEase : t.taskState.AtEase l := by
    by_contra restless
    exact h.not_due rest _ (.loop isThere restless)
  cases atEase.2 which with
  | stopped isStopped => simp [Poller.Schedule.isStopped, resting] at isStopped
  | resting _ resting early =>
    have alarm : (l.schedule which).alarm? = some (l.schedule which).due := by
      rw [Poller.Schedule.alarm?, resting]
    exact soon _ (h.timed.loops l isThere which _ alarm early)
  | refreshing _ refreshing => simp [resting] at refreshing
  | inRound _ inRound => simp [resting] at inRound

/-- The polls of a schedule are spaced, and the schedule is in step with them while its loop
runs. -/
lemma Polled.inStep (sound : Sound S t₀) (poller : t₀.poller = some p)
    (idle : t₀.isRunning = false) {polls : List Poll} (polled : Polled S t₀ which polls t) :
    let period := max (p.timing.interval which) Poller.shortestInterval
    Spaced t₀.now period t.now polls ∧ ∀ l, t.loop? t₀.loopCount = some l →
      InStep t₀.now period t.now polls l.cancelled (l.schedule which) := by
  intro period
  have positive : 1 ≤ period := Nat.le_max_right _ _
  induction polled with
  | start =>
    obtain ⟨now, found⟩ := loop?_startPoller sound poller idle
    refine ⟨.nil, fun l found' => ?_⟩
    rw [found] at found'
    obtain rfl := Option.some.inj found'
    have schedule : (newLoop t₀ p).schedule which
        = .start (p.timing.interval which) t₀.now := by cases which <;> rfl
    rw [schedule, now]
    exact ⟨rfl, Nat.le_of_eq (by simp [Poller.Schedule.start]), nofun,
      fun _ => ⟨by simp [Poller.Schedule.start], fun _ => Nat.le_refl _⟩⟩
  | @turn polls t t' l l' before sound found stepped found' ih =>
    obtain ⟨spaced, inStep⟩ := ih
    obtain ⟨s', goes, after, -⟩ := sound.stepSchedule_loop? found stepped
    rw [after] at found'
    obtain rfl := Option.some.inj found'
    have now : t'.now = t.now := goes.keeps.now
    rw [now, TaskState.schedule_withSchedule]
    obtain ⟨spaced', inStep'⟩ := (inStep l found).passes spaced positive goes.passes
    refine ⟨spaced', fun l'' found'' => ?_⟩
    rw [after] at found''
    obtain rfl := Option.some.inj found''
    have cancelled : (l.withSchedule which s').cancelled = l.cancelled := by cases which <;> rfl
    rw [TaskState.schedule_withSchedule, cancelled]
    exact inStep'
  | between before undisturbed ih =>
    obtain ⟨spaced, inStep⟩ := ih
    rw [undisturbed.now]
    refine ⟨spaced, fun l' found' => ?_⟩
    obtain ⟨l, found, schedule, live⟩ := undisturbed.loop l' found'
    rw [schedule]
    exact (inStep l found).later (Nat.le_refl _) live fun _ _ _ => Nat.le_max_left _ _
  | @wait polls t before attentive rest time soon ih =>
    obtain ⟨spaced, inStep⟩ := ih
    have now : (t.moveTo time).now = max t.now time :=
      congrArg TaskState.now (taskState_moveTo t time)
    have later : t.now ≤ (t.moveTo time).now := now ▸ Nat.le_max_left _ _
    refine ⟨spaced.later later, fun l found => ?_⟩
    rw [loop?, loops_moveTo] at found
    refine (inStep l found).later later (fun live => live) fun _ armed resting => ?_
    rw [now]
    refine Nat.max_le.mpr ⟨Nat.le_max_left _ _, Nat.le_trans ?_ (Nat.le_max_right _ _)⟩
    exact attentive.le_due rest soon (TaskState.mem_of_loop? (g := t.taskState) found).1 resting

/-! ### What leaves a schedule as it is -/

namespace Undisturbed

lemma of_mem (sound : Sound S t) (now : t'.now = t.now)
    (loops : ∀ l' ∈ t'.loops, l'.id = id → ∃ l ∈ t.loops, l.id = id ∧
      l'.schedule which = l.schedule which ∧ (l'.cancelled = false → l.cancelled = false)) :
    Undisturbed id which t t' := by
  refine ⟨now, fun l' found' => ?_⟩
  obtain ⟨mem', own'⟩ := TaskState.mem_of_loop? (g := t'.taskState) found'
  obtain ⟨l, mem, own, schedule, live⟩ := loops l' mem' own'
  exact ⟨l, own ▸ sound.fit.loop?_of_mem mem, schedule, live⟩

lemma of_loops (sound : Sound S t) (now : t'.now = t.now) (loops : t'.loops = t.loops) :
    Undisturbed id which t t' :=
  of_mem sound now fun l' mem own => ⟨l', loops ▸ mem, own, rfl, fun live => live⟩

/-- Turns of other schedules are none of this one. -/
lemma of_stepSchedule (sound : Sound S t) {other : Nat} {other' : Poller.Which}
    (distinct : ¬ (other = id ∧ other' = which))
    (stepped : t.stepSchedule S other other' = some t') : Undisturbed id which t t' := by
  obtain ⟨-, l, found, own, s', goes⟩ := sound.stepSchedule stepped
  have isThere := (TaskState.mem_of_loop? (g := t.taskState) found).1
  refine of_mem sound goes.keeps.now fun l' mem same => ?_
  have mem : l' ∈ (t.taskState.setSchedule l.id other' s').loops := goes.loops ▸ mem
  rcases TaskState.mem_setSchedule sound.fit isThere mem with ⟨old, -⟩ | rfl
  · exact ⟨l', old, same, rfl, fun live => live⟩
  · rw [TaskState.id_withSchedule] at same
    have others : which ≠ other' := fun isOwn => distinct ⟨own ▸ same, isOwn.symm⟩
    refine ⟨l, isThere, same, TaskState.schedule_withSchedule_other others l s', ?_⟩
    cases other' <;> exact fun live => live

lemma turned (sound : Sound S t) (other : Nat) : Undisturbed id which t (t.turned other) := by
  refine of_mem sound rfl (List.forall_mem_map.mpr fun l mem own => ⟨l, mem, ?_⟩)
  split at own
  next same =>
    rw [if_pos same]
    exact ⟨own, by cases which <;> rfl, fun live => live⟩
  next other =>
    rw [if_neg other]
    exact ⟨own, rfl, fun live => live⟩

lemma swept (sound : Sound S t) (other : Nat) : Undisturbed id which t (t.swept other) :=
  of_mem sound rfl fun l mem own => ⟨l, (List.mem_filter.mp mem).1, own, rfl, fun live => live⟩

lemma enters (sound : Sound S t) {kind : RoundKind} {round : Nat}
    (enters : t.taskState.Enters kind round t'.taskState) : Undisturbed id which t t' :=
  of_loops sound enters.keeps.1.now enters.keeps.2.1

lemma stepFetch (sound : Sound S t) (kind : RoundKind) (round : Nat) :
    Undisturbed id which t (t.stepFetch S kind round) := by
  obtain ⟨same, -⟩ | ⟨f, isThere, rfl, rfl, turn⟩ := fetchTurn S t kind round
  · exact .of_loops sound (congrArg Timeline.now same) (congrArg Timeline.loops same)
  · have same := (turn.taskState fun _ => sound.ofKind isThere).same
    exact .of_loops sound same.1 same.2

lemma stepCaller (sound : Sound S t) (caller : Nat) :
    Undisturbed id which t (t.stepCaller caller) := by
  obtain ⟨same, -⟩ | ⟨c, -, rfl, turn⟩ := taskState_stepCaller sound.isAhead caller
  · exact .of_loops sound (congrArg Timeline.now same) (congrArg Timeline.loops same)
  · exact .of_loops sound turn.same.1 turn.same.2

lemma beginLoop (sound : Sound S t) (old : id < t.loopCount) (p : Poller) :
    Undisturbed id which t (t.beginLoop p) := by
  refine of_mem sound (congrArg TaskState.now (taskState_beginLoop t p)) fun l mem own => ?_
  rcases mem_loops_beginLoop mem with older | rfl
  · exact ⟨l, older, own, rfl, fun live => live⟩
  · exact absurd own (Nat.ne_of_gt old)

/-- A loop that is cancelled still has its schedules. -/
lemma cancelLoop (sound : Sound S t) (p : Poller) :
    Undisturbed id which t (t.cancelLoop p) := by
  cases current : p.current with
  | none =>
    have same : t.cancelLoop p = t := by rw [Timeline.cancelLoop, current]
    rw [same]
    exact .of_loops sound rfl rfl
  | some loop =>
    have taskState := taskState_cancelLoop t current
    refine of_mem sound (congrArg TaskState.now taskState) fun l mem own => ?_
    have mem : l ∈ (t.taskState.cancel loop).loops := taskState ▸ mem
    obtain ⟨l₀, mem₀, ids, schedule, live, -⟩ := TaskState.mem_loops_cancel mem
    exact ⟨l₀, mem₀, ids.symm.trans own, schedule which, live⟩

lemma of_note {n : Note} (h : Undisturbed id which (t.note n) t') : Undisturbed id which t t' :=
  ⟨h.now, h.loop⟩

lemma starts (sound : Sound S t) (old : id < t.loopCount) (starts : t.Starts t') :
    Undisturbed id which t t' := by
  cases starts with
  | not => exact .of_loops sound rfl rfl
  | begins =>
    have sound : Sound S (t.note (.info "Starting metrics poller")) :=
      sound.of_work rfl (.refl _) rfl rfl
    exact (beginLoop sound old _).of_note

lemma quits (sound : Sound S t) (quits : t.Quits t') : Undisturbed id which t t' := by
  cases quits with
  | idle => exact .of_loops sound rfl rfl
  | cancels n p rest =>
    have sound : Sound S (t.note n) := sound.of_work rfl (.refl _) rfl rfl
    have cancelled : Undisturbed id which t ((t.note n).cancelLoop p) :=
      (cancelLoop sound p).of_note
    exact ⟨cancelled.now, cancelled.loop⟩

/-- What is done from outside may begin or cancel loops, but no schedule is touched. -/
lemma act (sound : Sound S t) (old : id < t.loopCount) (a : Act) :
    Undisturbed id which t (t.act a) := by
  cases a with
  | call kind =>
    rcases taskState_call sound.isAhead kind with ⟨-, same⟩ | ⟨round, -, enters⟩
    · exact .of_loops sound (congrArg TaskState.now same) (congrArg TaskState.loops same)
    · exact .enters sound enters
  | see kind round =>
    have same := taskState_see t kind round
    exact .of_loops sound (congrArg TaskState.now same) (congrArg TaskState.loops same)
  | spawn kind =>
    have same := taskState_wake
      { t with callers := t.callers ++ [⟨t.callers.length, kind, .begun⟩] }
      (.caller t.callers.length)
    exact .of_loops sound (congrArg TaskState.now same) (congrArg TaskState.loops same)
  | setGate kind isOpen =>
    have same := taskState_setGate t kind isOpen
    exact .of_loops sound (congrArg TaskState.now same) (congrArg TaskState.loops same)
  | abandon | chore | releaseStore | note => exact .of_loops sound rfl rfl
  | startPoller => exact .starts sound old t.starts_startPoller
  | haltPoller => exact .quits sound t.quits_haltPoller
  | releasePoller => exact .quits sound t.quits_releasePoller

end Undisturbed

/-! ### The polls of a course -/

/-- Whether the loop that a start begins has its number, and the polls of its schedule have been
recorded up to now. -/
structure IsRecorded (S : Source σ) (t₀ : Timeline σ) (which : Poller.Which) (t : Timeline σ) :
    Prop where
  numbered : t₀.loopCount < t.loopCount
  polled : ∃ polls, Polled S t₀ which polls t

namespace IsRecorded

lemma between (h : IsRecorded S t₀ which t) (undisturbed : Undisturbed t₀.loopCount which t t')
    (loopCount : t.loopCount ≤ t'.loopCount) : IsRecorded S t₀ which t' := by
  obtain ⟨numbered, polls, polled⟩ := h
  exact ⟨Nat.lt_of_lt_of_le numbered loopCount, polls, polled.between undisturbed⟩

lemma spins (h : IsRecorded S t₀ which t) (sound : Sound S t) {other' : Poller.Which}
    (spins : Spins S id other' t t') : IsRecorded S t₀ which t' := by
  induction spins with
  | refl => exact h
  | @tail u v before stepped ih =>
    have sound := sound.spins before
    obtain ⟨l, found, turn⟩ := turn_of_some stepped
    have loopCount : v.loopCount = u.loopCount := congrArg LoopState.loopCount turn.loopState
    by_cases own : id = t₀.loopCount ∧ other' = which
    · obtain ⟨rfl, rfl⟩ := own
      obtain ⟨numbered, polls, polled⟩ := ih
      obtain ⟨s', -, found', -⟩ := sound.stepSchedule_loop? found stepped
      exact ⟨loopCount ▸ numbered, _, polled.turn sound found stepped found'⟩
    · exact ih.between (.of_stepSchedule sound own stepped) (Nat.le_of_eq loopCount.symm)

/-- Whatever task goes on, the polls are recorded. -/
lemma step (h : IsRecorded S t₀ which t) (sound : Sound S t) (task : TaskId) :
    IsRecorded S t₀ which (t.step S task) := by
  have loopCount : t.loopCount ≤ (t.step S task).loopCount :=
    Nat.le_of_eq (step_meanwhile S t task).loopCount.symm
  cases task with
  | fetch kind round => exact h.between (.stepFetch sound kind round) loopCount
  | caller id => exact h.between (.stepCaller sound id) loopCount
  | loop id =>
    obtain ⟨-, same⟩ | ⟨_, _, _, _, -, first, last, stepped, -⟩ := sound.stepLoop_spins id
    · exact h.between (.of_loops sound (congrArg Timeline.now same) (congrArg Timeline.loops same))
        loopCount
    · have turned := sound.turned id
      have spun := turned.spins first
      have recorded := (h.between (.turned sound id) (Nat.le_refl _)).spins turned first
      have recorded := (recorded.spins spun last).between (.swept (spun.spins last) id) (Nat.le_refl _)
      exact (congrArg (IsRecorded S t₀ which) stepped).mpr recorded

lemma beat (h : IsRecorded S t₀ which t) (attentive : Attentive S t) (beat : Beat S t t') :
    IsRecorded S t₀ which t' := by
  cases beat with
  | go =>
    unfold next
    split
    · exact h
    next task rest _ =>
      have popped : IsRecorded S t₀ which { t with ready := rest } :=
        h.between (.of_loops attentive.sound rfl rfl) (Nat.le_refl _)
      exact popped.step (attentive.sound.popped rest) task
  | @wait rest time soon =>
    obtain ⟨numbered, polls, polled⟩ := h
    have loopCount : (t.moveTo time).loopCount = t.loopCount :=
      congrArg LoopState.loopCount (t.loopState_moveTo time)
    exact ⟨loopCount ▸ numbered, polls, polled.wait attentive rest soon⟩

lemma course (h : IsRecorded S t₀ which t) (attentive : Attentive S t) (course : Course S t t') :
    IsRecorded S t₀ which t' := by
  induction course with
  | refl => exact h
  | beat before beat ih => exact ih.beat (before.attentive attentive) beat
  | @act t' before a ih =>
    have sound := (before.attentive attentive).sound
    exact ih.between (.act sound ih.numbered a) (t'.loopCount_le_act a)

end IsRecorded

/-- However long rounds and refreshes take, whatever else goes on and whatever is done to the
timeline, the polls of each schedule of a loop that is started keep pace with its interval. -/
theorem Course.paced (fresh : t.IsFresh) {timing : Poller.Timing} {refreshes : Bool}
    (before : Course S (t.withPoller timing refreshes) t₀) (poller : t₀.poller = some p)
    (idle : t₀.isRunning = false) (after : Course S t₀.startPoller.2 t') (which : Poller.Which) :
    (∃ polls, Polled S t₀ which polls t') ∧ ∀ polls, Polled S t₀ which polls t' →
      Paced t₀.now (max (p.timing.interval which) Poller.shortestInterval) t'.now
        (∃ l, t'.loop? t₀.loopCount = some l ∧ l.cancelled = false) polls := by
  have attentive : Attentive S t₀ := before.attentive (.fresh fresh timing refreshes)
  constructor
  · have numbered : t₀.loopCount < t₀.startPoller.2.loopCount := by
      rw [startPoller_of_idle poller idle]
      exact loopCount_beginLoop (t₀.note _) p ▸ Nat.lt_succ_self _
    have begun : IsRecorded S t₀ which t₀.startPoller.2 := ⟨numbered, [], .start⟩
    exact (begun.course (attentive.starts (starts_startPoller _)) after).polled
  · intro polls polled
    obtain ⟨spaced, inStep⟩ := polled.inStep attentive.sound poller idle
    refine spaced.keepsPace (Nat.le_max_right _ _) ?_
    rintro ⟨l, found, live⟩
    exact ⟨l.schedule which, live ▸ inStep l found⟩

/-- A poller that polls every ten milliseconds, for twenty-five of them. -/
theorem paced_every_ten :
    let idle : Timeline Script :=
      (Timeline.start (.fresh .loggedOut .unknown "org" 64) {}).withPoller { listEvery := 10 } false
    let after := idle.startPoller.2.advance Script.source 25
    after.stats.listTicks = 3 ∧ ∃ polls, Polled Script.source idle .list polls after ∧
      Paced 0 10 after.now (∃ l, after.loop? 0 = some l ∧ l.cancelled = false) polls := by
  intro idle after
  have ticks : after.stats.listTicks = 3 := by
    unfold after idle
    rfl
  have fresh : (Timeline.start (.fresh .loggedOut .unknown "org" 64) {} : Timeline Script).IsFresh :=
    ⟨_, _, _, _, _, rfl⟩
  have attentive : Attentive Script.source idle := .fresh fresh { listEvery := 10 } false
  have advanced : Course Script.source idle.startPoller.2 after :=
    Course.refl.lapse ((attentive.starts (starts_startPoller _)).advance_lapse 25)
  obtain ⟨⟨polls, polled⟩, paced⟩ := Course.paced fresh .refl rfl rfl advanced .list
  exact ⟨ticks, polls, polled, paced polls polled⟩

end Timeline

end MetricWatch
