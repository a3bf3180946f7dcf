import MetricWatch.Proofs.Polling.Load
import Mathlib.Data.List.TakeWhile

/-!
# Nobody is forgotten

Whatever can go on is ready to, and whatever will be able to go on at a later time has a timer set
for that time. So when a timeline has settled nothing is left that could go on, and the clock passes
over nothing when it moves to the next timer. The main statements are `Attentive.next` and
`Attentive.moveTo`.
-/

namespace MetricWatch.Timeline

variable {σ : Type} {S : Source σ} {t t' : Timeline σ} {l : Poller.Loop} {which : Poller.Which}

/-! ### Timers -/

lemma mem_insertTimer {timer other : Timer} {timers : List Timer} :
    other ∈ insertTimer timer timers ↔ other = timer ∨ other ∈ timers := by
  induction timers with
  | nil => simp [insertTimer]
  | cons first rest ih =>
    unfold insertTimer
    split
    · simp
    · rw [List.mem_cons, ih, List.mem_cons]
      exact or_left_comm

lemma sorted_insertTimer {timer : Timer} {timers : List Timer}
    (sorted : timers.Pairwise fun a b => a.due ≤ b.due) :
    (insertTimer timer timers).Pairwise fun a b => a.due ≤ b.due := by
  induction timers with
  | nil => exact List.pairwise_singleton _ _
  | cons first rest ih =>
    obtain ⟨least, sorted'⟩ := List.pairwise_cons.mp sorted
    unfold insertTimer
    split
    next before =>
      refine List.pairwise_cons.mpr ⟨fun other mem => ?_, sorted⟩
      rcases List.mem_cons.mp mem with rfl | later
      · exact Nat.le_of_lt before
      · exact Nat.le_trans (Nat.le_of_lt before) (least other later)
    next after =>
      refine List.pairwise_cons.mpr ⟨fun other mem => ?_, ih sorted'⟩
      rcases mem_insertTimer.mp mem with rfl | later
      · exact Nat.le_of_not_lt after
      · exact least other later

namespace TaskState

variable {g g' : TaskState}

/-! ### What can go on -/

/-- Whether a fetch can go on. -/
def fetchDue (g : TaskState) (f : Fetch) : Prop :=
  match f.stage with
  | .begun _ => True
  | .held _ _ => g.isOpen f.kind = true
  | .waiting _ until_ => until_ ≤ g.now

/-- Whether a caller can go on. -/
def callerDue (g : TaskState) (c : Caller) : Prop :=
  match c.stage with
  | .begun => True
  | .waiting round => g.result? c.kind round ≠ none
  | .finished _ | .aborted => False

/-- Whether a loop has not ended and has nothing to do. -/
def AtEase (g : TaskState) (l : Poller.Loop) : Prop :=
  l.isFinished = false ∧ ∀ which, Idle g.now g.result? l which

/-- The tasks that can go on. -/
inductive Due (g : TaskState) : TaskId → Prop
  | fetch {f : Fetch} (isThere : f ∈ g.fetches) (due : g.fetchDue f) : Due g (.fetch f.kind f.round)
  | caller {c : Caller} (isThere : c ∈ g.callers) (due : g.callerDue c) : Due g (.caller c.id)
  | loop {l : Poller.Loop} (isThere : l ∈ g.loops) (restless : ¬ g.AtEase l) : Due g (.loop l.id)

/-- Whether everything that can go on is ready, but for a task that is going on. -/
def Watched (g : TaskState) (but : Option TaskId) : Prop :=
  ∀ task, g.Due task → but = some task ∨ task ∈ g.ready

namespace Watched

variable {task own : TaskId}

lemma ready (h : g.Watched none) (due : g.Due task) : task ∈ g.ready :=
  (h task due).resolve_left nofun

lemma ready_of_ne (h : g.Watched (some own)) (due : g.Due task) (other : task ≠ own) :
    task ∈ g.ready :=
  (h task due).resolve_left fun same => other (Option.some.inj same).symm

/-- A task that cannot go on need not be ready. -/
lemma of_not_due (h : g.Watched (some own)) (idle : ¬ g.Due own) : g.Watched none := by
  intro task due
  refine .inr (h.ready_of_ne due ?_)
  rintro rfl
  exact idle due

end Watched

/-- Whether everything that will be able to go on at a later time has a timer, and timers are kept
in order. -/
structure Timed (g : TaskState) : Prop where
  sorted : g.timers.Pairwise fun a b => a.due ≤ b.due
  later : ∀ timer ∈ g.timers, g.now < timer.due
  fetches : ∀ f ∈ g.fetches, ∀ gathered until_, f.stage = .waiting gathered until_ →
    g.now < until_ → ⟨until_, .fetch f.kind f.round⟩ ∈ g.timers
  loops : ∀ l ∈ g.loops, ∀ which due, (l.schedule which).alarm? = some due → g.now < due →
    ⟨due, .loop l.id⟩ ∈ g.timers

/-! ### Schedules -/

lemma mem_setSchedule (fit : g.Fit) (isThere : l ∈ g.loops) {s : Poller.Schedule}
    {l' : Poller.Loop} (mem : l' ∈ (g.setSchedule l.id which s).loops) :
    (l' ∈ g.loops ∧ l'.id ≠ l.id) ∨ l' = l.withSchedule which s := by
  obtain ⟨l₀, mem₀, same⟩ := List.mem_map.mp mem
  split at same
  next own =>
    rw [← same, List.inj_on_of_nodup_map fit.loops mem₀ isThere own]
    exact .inr rfl
  next other =>
    rw [← same]
    exact .inl ⟨mem₀, other⟩

/-- Calls and turns make everything ready that they enable, but for the loop that takes its turn. -/
lemma Due.of_keeps (keeps : Keeps g g') {task : TaskId} (due : g'.Due task)
    (loops : ∀ l' ∈ g'.loops, task = .loop l'.id → l' ∈ g.loops) :
    g.Due task ∨ task ∈ g'.ready := by
  cases due with
  | @fetch f isThere due =>
    rcases keeps.fetches f isThere with old | ⟨-, -, ready⟩
    · refine .inl (.fetch old ?_)
      unfold fetchDue at due ⊢
      rwa [keeps.isOpen, keeps.now] at due
    · exact .inr ready
  | @caller c isThere due =>
    refine .inl (.caller (keeps.callers ▸ isThere) ?_)
    unfold callerDue at due ⊢
    rwa [keeps.result?] at due
  | loop isThere restless =>
    refine .inl (.loop (loops _ isThere rfl) fun ease => restless ⟨ease.1, fun which => ?_⟩)
    rw [keeps.now, keeps.result?]
    exact ease.2 which

lemma Watched.shifts (h : g.Watched (some (.loop l.id))) (fit : g.Fit) (isThere : l ∈ g.loops)
    {s' : Poller.Schedule} (shifts : g.Shifts l which s' g') : g'.Watched (some (.loop l.id)) := by
  intro task due
  by_cases own : task = .loop l.id
  · exact .inl (congrArg some own.symm)
  · have old (l' : Poller.Loop) (mem : l' ∈ g'.loops) (same : task = .loop l'.id) :
        l' ∈ g.loops := by
      rw [shifts.loops] at mem
      rcases mem_setSchedule fit isThere mem with ⟨old, -⟩ | rfl
      · exact old
      · rw [id_withSchedule] at same
        exact absurd same own
    refine .inr ?_
    rcases due.of_keeps shifts.keeps old with before | ready
    · exact shifts.keeps.ready (h.ready_of_ne before own)
    · exact ready

lemma Timed.shifts (h : g.Timed) (fit : g.Fit) (isThere : l ∈ g.loops) {s' : Poller.Schedule}
    (shifts : g.Shifts l which s' g') : g'.Timed := by
  have kept : g.timers ⊆ g'.timers := by
    rcases shifts.alarm with ⟨-, same⟩ | ⟨due, -, -, inserted⟩
    · exact fun timer mem => same ▸ mem
    · exact fun timer mem => inserted ▸ mem_insertTimer.mpr (.inr mem)
  refine ⟨?_, ?_, fun f mem gathered until_ waiting later => ?_, fun l' mem other due alarm later => ?_⟩
  · rcases shifts.alarm with ⟨-, same⟩ | ⟨due, -, -, inserted⟩
    · exact same ▸ h.sorted
    · exact inserted ▸ sorted_insertTimer h.sorted
  · rw [shifts.keeps.now]
    rcases shifts.alarm with ⟨-, same⟩ | ⟨due, -, later, inserted⟩
    · exact same ▸ h.later
    · intro timer mem
      rw [inserted] at mem
      rcases mem_insertTimer.mp mem with rfl | old
      · exact later
      · exact h.later timer old
  · rcases shifts.keeps.fetches f mem with old | ⟨⟨items, begun⟩, -⟩
    · exact kept (h.fetches f old gathered until_ waiting (shifts.keeps.now ▸ later))
    · rw [waiting] at begun
      cases begun
  · rw [shifts.keeps.now] at later
    rw [shifts.loops] at mem
    rcases mem_setSchedule fit isThere mem with ⟨old, -⟩ | rfl
    · exact kept (h.loops l' old other due alarm later)
    · rw [id_withSchedule]
      by_cases own : other = which
      · subst own
        rw [schedule_withSchedule] at alarm
        rcases shifts.alarm with ⟨none, -⟩ | ⟨due', some, -, inserted⟩
        · rw [none] at alarm
          cases alarm
        · obtain rfl := Option.some.inj (alarm.symm.trans some)
          exact inserted ▸ mem_insertTimer.mpr (.inl rfl)
      · rw [schedule_withSchedule_other own] at alarm
        exact kept (h.loops l isThere other due alarm later)

/-! ### Fetches -/

lemma loopAwaits_of_inRound {round : Nat} {failed : Bool}
    (inRound : (l.schedule which).stage = .inRound round failed) :
    loopAwaits l (kindOf which) round = true := by
  cases which <;> simp only [Poller.Loop.schedule] at inRound <;>
    simp [loopAwaits, kindOf, awaits, inRound]

lemma mem_setStage {f : Fetch} {stage : FetchStage} {f' : Fetch}
    (mem : f' ∈ (g.setStage f.kind f.round stage).fetches) :
    f' ∈ g.fetches ∨ f' = { f with stage := stage } := by
  obtain ⟨f₀, mem₀, same⟩ := List.mem_map.mp mem
  split at same
  next own =>
    rw [← same, own.1, own.2]
    exact .inr rfl
  next =>
    rw [← same]
    exact .inl mem₀

/-- A fetch that is put at a stage at which it has nothing to do need not be ready. -/
lemma Watched.setStage {f : Fetch} (h : g.Watched (some (.fetch f.kind f.round)))
    {stage : FetchStage} (timers : List Timer) (idle : ¬ g.fetchDue { f with stage := stage }) :
    Watched { g.setStage f.kind f.round stage with timers := timers } none := by
  intro task due
  refine .inr ?_
  cases due with
  | @fetch f' mem due =>
    obtain ⟨f₀, mem₀, same⟩ := List.mem_map.mp mem
    split at same
    next own =>
      have isF : f' = { f with stage := stage } := by rw [← same, own.1, own.2]
      exact absurd (isF ▸ due) idle
    next other =>
      subst same
      refine h.ready_of_ne (.fetch mem₀ due) fun same => other ?_
      exact ⟨(TaskId.fetch.inj same).1, (TaskId.fetch.inj same).2⟩
  | caller mem due => exact h.ready_of_ne (.caller mem due) nofun
  | loop mem restless => exact h.ready_of_ne (.loop mem restless) nofun

/-- At the end of a round whoever waits for it is ready, and its fetch is gone. -/
lemma Watched.finish {kind : RoundKind} {round : Nat} (h : g.Watched (some (.fetch kind round)))
    (result : CallResult) : (g.finish kind round result).Watched none := by
  intro task due
  refine .inr (mem_foldl_woken.mpr ?_)
  cases due with
  | @fetch f mem due =>
    obtain ⟨mem, other⟩ := List.mem_filter.mp mem
    refine .inl (h.ready_of_ne (.fetch mem due) fun same => ?_)
    obtain ⟨kind, round⟩ := TaskId.fetch.inj same
    simp [kind, round] at other
  | @caller c mem due =>
    -- Either the caller waits for the round, or it had something to do before.
    by_cases waits : callerAwaits c kind round = true
    · refine .inr (List.mem_append_left _ (List.mem_map.mpr ⟨c, ?_, rfl⟩))
      exact List.mem_filter.mpr ⟨mem, waits⟩
    · refine .inl (h.ready_of_ne (.caller mem ?_) nofun)
      unfold callerDue callerAwaits at *
      cases stage : c.stage with
      | waiting r =>
        simp only [stage, result?_finish] at due waits ⊢
        rwa [if_neg fun same => waits (by simp [same.1, same.2])] at due
      | begun => trivial
      | finished | aborted => simp [stage] at due
  | @loop l mem restless =>
    by_cases waits : loopAwaits l kind round = true
    · refine .inr (List.mem_append_right _ (List.mem_map.mpr ⟨l, ?_, rfl⟩))
      exact List.mem_filter.mpr ⟨mem, waits⟩
    · refine .inl (h.ready_of_ne (.loop mem fun ease => restless ⟨ease.1, fun which => ?_⟩) nofun)
      cases ease.2 which with
      | stopped isStopped => exact .stopped isStopped
      | resting live resting early => exact .resting live resting early
      | refreshing live refreshing early => exact .refreshing live refreshing early
      | @inRound round' failed live inRound pending =>
        refine .inRound live inRound ?_
        have other : ¬ (kind = kindOf which ∧ round = round') := by
          rintro ⟨rfl, rfl⟩
          exact waits (loopAwaits_of_inRound inRound)
        rw [result?_finish, if_neg other]
        exact pending

/-- A fetch that has gone on has nothing to do. -/
lemma Watched.fetchTurn {f : Fetch} (h : g.Watched (some (.fetch f.kind f.round)))
    (only : ∀ f' ∈ g.fetches, f'.kind = f.kind → f'.round = f.round → f' = f)
    (turn : g.FetchTurn f g') : g'.Watched none := by
  cases turn with
  | @stays gathered patient =>
    have idle : ¬ g.fetchDue f := by
      unfold fetchDue
      rcases patient with ⟨delay, held, closed⟩ | ⟨until_, waiting, early⟩
      · simp [held, closed]
      · simp [waiting, early]
    refine h.of_not_due fun due => ?_
    generalize isTask : TaskId.fetch f.kind f.round = own at due
    cases due with
    | @fetch f' mem due =>
      obtain ⟨kind, round⟩ := TaskId.fetch.inj isTask
      exact idle (only f' mem kind.symm round.symm ▸ due)
    | caller | loop => cases isTask
  | holds closed gathered delay => exact h.setStage g.timers (by simp [fetchDue, closed])
  | waits later gathered => exact h.setStage _ (by simp [fetchDue, later])
  | ends result => exact h.finish result

lemma Timed.fetchTurn {f : Fetch} (h : g.Timed) (turn : g.FetchTurn f g') : g'.Timed := by
  cases turn with
  | stays => exact h
  | holds closed gathered delay =>
    refine ⟨h.sorted, h.later, fun f' mem gathered' until_ waiting later => ?_, h.loops⟩
    rcases mem_setStage mem with old | rfl
    · exact h.fetches f' old gathered' until_ waiting later
    · cases waiting
  | @waits until_ soon gathered =>
    refine ⟨sorted_insertTimer h.sorted, fun timer mem => ?_,
      fun f' mem gathered' until' waiting later => mem_insertTimer.mpr ?_,
      fun l mem which due alarm later => mem_insertTimer.mpr (.inr (h.loops l mem which due alarm later))⟩
    · rcases mem_insertTimer.mp mem with rfl | old
      · exact soon
      · exact h.later timer old
    · rcases mem_setStage mem with old | rfl
      · exact .inr (h.fetches f' old gathered' until' waiting later)
      · cases waiting
        exact .inl rfl
  | ends result =>
    refine ⟨h.sorted, h.later, fun f' mem => ?_, h.loops⟩
    exact h.fetches f' (List.mem_filter.mp mem).1

/-! ### Callers -/

lemma mem_setCaller {id : Nat} {stage : CallerStage} {c' : Caller}
    (mem : c' ∈ (g.setCaller id stage).callers) :
    (c' ∈ g.callers ∧ c'.id ≠ id) ∨ ∃ c ∈ g.callers, c.id = id ∧ c' = { c with stage := stage } := by
  obtain ⟨c₀, mem₀, same⟩ := List.mem_map.mp mem
  split at same
  next own => exact .inr ⟨c₀, mem₀, own, same.symm⟩
  next other =>
    rw [← same]
    exact .inl ⟨mem₀, other⟩

/-- A caller that is put at a stage at which it has nothing to do need not be ready. -/
lemma Watched.setCaller {c : Caller} (h : g.Watched (some (.caller c.id))) (fit : g.Fit)
    (isThere : c ∈ g.callers) {stage : CallerStage}
    (idle : ¬ g.callerDue { c with stage := stage }) : (g.setCaller c.id stage).Watched none := by
  intro task due
  refine .inr ?_
  cases due with
  | fetch mem due => exact h.ready_of_ne (.fetch mem due) nofun
  | @caller c' mem due =>
    rcases mem_setCaller mem with ⟨old, other⟩ | ⟨c₀, mem₀, same, rfl⟩
    · exact h.ready_of_ne (.caller old due) fun same => other (TaskId.caller.inj same)
    · rw [List.inj_on_of_nodup_map fit.callers mem₀ isThere same] at due
      exact absurd due idle
  | loop mem restless => exact h.ready_of_ne (.loop mem restless) nofun

lemma Watched.enters {but : Option TaskId} (h : g.Watched but) {kind : RoundKind} {round : Nat}
    (enters : g.Enters kind round g') : g'.Watched but := by
  obtain ⟨keeps, loops, -⟩ := enters.keeps
  intro task due
  rcases due.of_keeps keeps fun l mem _ => loops ▸ mem with before | ready
  · exact (h task before).imp_right fun ready => keeps.ready ready
  · exact .inr ready

lemma Watched.callerTurn {c : Caller} (h : g.Watched (some (.caller c.id))) (fit : g.Fit)
    (isThere : c ∈ g.callers) (turn : g.CallerTurn c g') : g'.Watched none := by
  cases turn with
  | stays patient =>
    have idle : ¬ g.callerDue c := by
      unfold callerDue
      rcases patient with ⟨result, finished⟩ | aborted | ⟨round, waiting, pending⟩
      · simp [finished]
      · simp [aborted]
      · simp [waiting, pending]
    refine h.of_not_due fun due => ?_
    generalize isTask : TaskId.caller c.id = own at due
    cases due with
    | caller mem due =>
      obtain rfl := List.inj_on_of_nodup_map fit.callers mem isThere (TaskId.caller.inj isTask).symm
      exact idle due
    | fetch | loop => cases isTask
  | served => exact h.setCaller fit isThere not_false
  | declined => exact h.setCaller fit isThere not_false
  | @admitted round g₁ stage _ enters settled =>
    have there : c ∈ g₁.callers := enters.keeps.1.callers ▸ isThere
    refine (h.enters enters).setCaller (fit.enters enters) there ?_
    rcases settled with ⟨rfl, pending⟩ | ⟨result, rfl⟩
    · exact fun due => due pending
    · exact not_false

lemma Timed.enters (h : g.Timed) {kind : RoundKind} {round : Nat}
    (enters : g.Enters kind round g') : g'.Timed := by
  obtain ⟨keeps, loops, timers⟩ := enters.keeps
  refine ⟨timers ▸ h.sorted, ?_, fun f mem gathered until_ waiting later => ?_, ?_⟩
  · rw [timers, keeps.now]
    exact h.later
  · rw [timers]
    rcases keeps.fetches f mem with old | ⟨⟨items, begun⟩, -⟩
    · exact h.fetches f old gathered until_ waiting (keeps.now ▸ later)
    · rw [waiting] at begun
      cases begun
  · rw [loops, timers, keeps.now]
    exact h.loops

lemma Timed.callerTurn {c : Caller} (h : g.Timed) (turn : g.CallerTurn c g') : g'.Timed := by
  cases turn with
  | stays => exact h
  | served | declined => exact ⟨h.sorted, h.later, h.fetches, h.loops⟩
  | admitted _ enters =>
    have entered := h.enters enters
    exact ⟨entered.sorted, entered.later, entered.fetches, entered.loops⟩

/-! ### The clock -/

/-- The clock moves on to a time; the timers that are due go off in order. -/
def moveTo (g : TaskState) (time : Nat) : TaskState :=
  let now := max g.now time
  let due := g.timers.takeWhile fun timer => timer.due ≤ now
  { g with
    now := now
    timers := g.timers.drop due.length
    ready := (due.map Timer.task).foldl woken g.ready }

lemma drop_takeWhile_length {α : Type} (p : α → Bool) (xs : List α) :
    xs.drop (xs.takeWhile p).length = xs.dropWhile p := by
  calc xs.drop (xs.takeWhile p).length
      = (xs.takeWhile p ++ xs.dropWhile p).drop (xs.takeWhile p).length := by
        rw [List.takeWhile_append_dropWhile]
    _ = xs.dropWhile p := List.drop_left

/-- What is left of timers in order are those that are not due. -/
lemma lt_of_mem_dropWhile {timers : List Timer} (sorted : timers.Pairwise fun a b => a.due ≤ b.due)
    {now : Nat} {timer : Timer} (mem : timer ∈ timers.dropWhile fun timer => timer.due ≤ now) :
    now < timer.due := by
  induction timers with
  | nil => cases mem
  | cons first rest ih =>
    obtain ⟨least, sorted'⟩ := List.pairwise_cons.mp sorted
    rw [List.dropWhile_cons] at mem
    by_cases due : first.due ≤ now
    · rw [if_pos (by simpa using due)] at mem
      exact ih sorted' mem
    · rw [if_neg (by simpa using due)] at mem
      rcases List.mem_cons.mp mem with rfl | later
      · exact Nat.lt_of_not_le due
      · exact Nat.lt_of_lt_of_le (Nat.lt_of_not_le due) (least timer later)

variable {time : Nat}

/-- A timer that is due goes off. -/
lemma Timed.mem_ready_moveTo (h : g.Timed) {timer : Timer} (mem : timer ∈ g.timers)
    (due : timer.due ≤ max g.now time) : timer.task ∈ (g.moveTo time).ready := by
  rw [← List.takeWhile_append_dropWhile (p := fun timer => timer.due ≤ max g.now time)
    (l := g.timers)] at mem
  refine mem_foldl_woken.mpr (.inr ?_)
  rcases List.mem_append.mp mem with off | left
  · exact List.mem_map_of_mem off
  · exact absurd due (Nat.not_le_of_lt (lt_of_mem_dropWhile h.sorted left))

/-- A timer that is not due stays. -/
lemma mem_timers_moveTo {timer : Timer} (mem : timer ∈ g.timers)
    (later : max g.now time < timer.due) : timer ∈ (g.moveTo time).timers := by
  rw [← List.takeWhile_append_dropWhile (p := fun timer => timer.due ≤ max g.now time)
    (l := g.timers)] at mem
  change timer ∈ g.timers.drop _
  rw [drop_takeWhile_length]
  rcases List.mem_append.mp mem with off | left
  · have due := List.mem_takeWhile_imp off
    exact absurd (by simpa using due) (Nat.not_le_of_lt later)
  · exact left

/-- Whoever can go on at the new time could before, or has been woken by a timer. -/
lemma Watched.moveTo {but : Option TaskId} (h : g.Watched but) (timed : g.Timed) (time : Nat) :
    (g.moveTo time).Watched but := by
  intro task due
  have ready {task : TaskId} (before : g.Due task) :
      but = some task ∨ task ∈ (g.moveTo time).ready :=
    (h task before).imp_right fun ready => mem_foldl_woken.mpr (.inl ready)
  have woken {due : Nat} {task : TaskId} (timer : ⟨due, task⟩ ∈ g.timers)
      (now : due ≤ max g.now time) : but = some task ∨ task ∈ (g.moveTo time).ready :=
    .inr (timed.mem_ready_moveTo timer now)
  cases due with
  | @fetch f mem due =>
    cases stage : f.stage with
    | begun items => exact ready (.fetch mem (by simp [fetchDue, stage]))
    | held gathered delay =>
      unfold fetchDue at due
      rw [stage] at due
      have isOpen : g.isOpen f.kind = true := due
      exact ready (.fetch mem (by simp [fetchDue, stage, isOpen]))
    | waiting gathered until_ =>
      by_cases early : g.now < until_
      · unfold fetchDue at due
        rw [stage] at due
        exact woken (timed.fetches f mem gathered until_ stage early) due
      · exact ready (.fetch mem (by simpa [fetchDue, stage] using early))
  | caller mem due => exact ready (.caller mem due)
  | @loop l mem restless =>
    by_cases ease : g.AtEase l
    · -- A schedule had nothing to do, and now it has: its time has come.
      obtain ⟨which, restless⟩ : ∃ which, ¬ Idle (max g.now time) g.result? l which := by
        by_contra all
        refine restless ⟨ease.1, fun which => ?_⟩
        by_contra one
        exact all ⟨which, one⟩
      have alarm {due : Nat} (alarm : (l.schedule which).alarm? = some due) (early : g.now < due)
          (now : ¬ max g.now time < due) :
          but = some (.loop l.id) ∨ .loop l.id ∈ (g.moveTo time).ready :=
        woken (timed.loops l mem which due alarm early) (Nat.le_of_not_lt now)
      cases ease.2 which with
      | stopped isStopped => exact absurd (.stopped isStopped) restless
      | resting live resting early =>
        refine alarm ?_ early fun later => restless (.resting live resting later)
        rw [Poller.Schedule.alarm?, resting]
      | refreshing live refreshing early =>
        refine alarm ?_ early fun later => restless (.refreshing live refreshing later)
        rw [Poller.Schedule.alarm?, refreshing]
      | inRound live inRound pending => exact absurd (.inRound live inRound pending) restless
    · exact ready (.loop mem ease)

lemma Timed.moveTo (h : g.Timed) (time : Nat) : (g.moveTo time).Timed := by
  have left : (g.moveTo time).timers
      = g.timers.dropWhile fun timer => timer.due ≤ max g.now time := drop_takeWhile_length _ _
  have before {due : Nat} (later : (g.moveTo time).now < due) : g.now < due :=
    Nat.lt_of_le_of_lt (Nat.le_max_left _ _) later
  refine ⟨?_, ?_, fun f mem gathered until_ waiting later => ?_,
    fun l mem which due alarm later => ?_⟩
  · rw [left]
    exact h.sorted.sublist (List.dropWhile_sublist _)
  · rw [left]
    exact fun timer mem => lt_of_mem_dropWhile h.sorted mem
  · exact mem_timers_moveTo (h.fetches f mem gathered until_ waiting (before later)) later
  · exact mem_timers_moveTo (h.loops l mem which due alarm (before later)) later

end TaskState

/-! ### Attentive timelines -/

/-- Sound timelines on which whatever can go on is ready to, and whatever will be able to has a
timer. -/
structure Attentive (S : Source σ) (t : Timeline σ) : Prop where
  sound : Sound S t
  watched : t.taskState.Watched none
  timed : t.taskState.Timed

lemma taskState_moveTo (t : Timeline σ) (time : Nat) :
    (t.moveTo time).taskState = t.taskState.moveTo time := by
  unfold moveTo
  rw [taskState_wakeAll]
  rfl

namespace Attentive

/-! ### Fetches and callers -/

/-- A task that is taken out of those that are ready may be the only one that is not. -/
lemma watched_popped (h : Attentive S t) {task : TaskId} {rest : List TaskId}
    (ready : t.ready = task :: rest) :
    ({ t with ready := rest } : Timeline σ).taskState.Watched (some task) := by
  intro other due
  have due : t.taskState.Due other := by
    cases due with
    | fetch mem due => exact .fetch mem due
    | caller mem due => exact .caller mem due
    | loop mem restless => exact .loop mem restless
  have there : other ∈ t.ready := h.watched.ready due
  rw [ready] at there
  exact (List.mem_cons.mp there).imp_left fun same => congrArg some same.symm

lemma stepFetch (sound : Sound S t) {kind : RoundKind} {round : Nat}
    (watched : t.taskState.Watched (some (.fetch kind round))) (timed : t.taskState.Timed) :
    Attentive S (t.stepFetch S kind round) := by
  have after := sound.stepFetch kind round
  obtain ⟨same, gone⟩ | ⟨f, isThere, rfl, rfl, turn⟩ := fetchTurn S t kind round
  · rw [same]
    refine ⟨sound, watched.of_not_due fun due => ?_, timed⟩
    generalize isTask : TaskId.fetch kind round = task at due
    cases due with
    | @fetch f mem =>
      obtain ⟨rfl, rfl⟩ := TaskId.fetch.inj isTask
      exact gone f mem ⟨rfl, rfl⟩
    | caller | loop => cases isTask
  · have turn := turn.taskState fun _ => sound.ofKind isThere
    have only (f' : Fetch) (mem : f' ∈ t.fetches) (kind : f'.kind = f.kind) (_ : f'.round = f.round) :
        f' = f := by
      have own : f' ∈ t.fetches.filter fun f' => f'.kind = f.kind :=
        List.mem_filter.mpr ⟨mem, by simpa using kind⟩
      rw [sound.fetches_eq isThere] at own
      exact List.mem_singleton.mp own
    exact ⟨after, watched.fetchTurn only turn, timed.fetchTurn turn⟩

lemma stepCaller (sound : Sound S t) {id : Nat} (watched : t.taskState.Watched (some (.caller id)))
    (timed : t.taskState.Timed) : Attentive S (t.stepCaller id) := by
  have after := sound.stepCaller id
  obtain ⟨same, gone⟩ | ⟨c, isThere, rfl, turn⟩ := taskState_stepCaller sound.isAhead id
  · rw [same]
    refine ⟨sound, watched.of_not_due fun due => ?_, timed⟩
    generalize isTask : TaskId.caller id = task at due
    cases due with
    | @caller c mem => exact gone c mem (TaskId.caller.inj isTask).symm
    | fetch | loop => cases isTask
  · exact ⟨after, watched.callerTurn sound.fit isThere turn, timed.callerTurn turn⟩

/-! ### Loops -/

lemma turned (id : Nat) {but : Option TaskId} (watched : t.taskState.Watched but)
    (timed : t.taskState.Timed) :
    (t.turned id).taskState.Watched but ∧ (t.turned id).taskState.Timed := by
  constructor
  · intro task due
    refine watched task ?_
    cases due with
    | fetch mem due => exact .fetch mem due
    | caller mem due => exact .caller mem due
    | @loop l mem restless =>
      obtain ⟨l₀, mem₀, same⟩ := List.mem_map.mp mem
      have ids : l₀.id = l.id := by
        rw [← same]
        split <;> rfl
      rw [← ids]
      refine .loop mem₀ fun ease => restless ?_
      rw [← same]
      split
      · exact ⟨ease.1, fun which => (ease.2 which).congr rfl (by cases which <;> rfl)⟩
      · exact ease
  · refine ⟨timed.sorted, timed.later, timed.fetches, List.forall_mem_map.mpr fun l mem which => ?_⟩
    have before := timed.loops l mem which
    split
    · cases which <;> exact before
    · exact before

lemma spins (sound : Sound S t) {id : Nat} (watched : t.taskState.Watched (some (.loop id)))
    (timed : t.taskState.Timed) (spins : Spins S id which t t') :
    t'.taskState.Watched (some (.loop id)) ∧ t'.taskState.Timed := by
  induction spins with
  | refl => exact ⟨watched, timed⟩
  | tail before stepped ih =>
    have sound := sound.spins before
    obtain ⟨-, l, found, rfl, s', goes⟩ := sound.stepSchedule stepped
    have isThere := (TaskState.mem_of_loop? (g := Timeline.taskState _) found).1
    exact ⟨ih.1.shifts sound.fit isThere goes.shifts, ih.2.shifts sound.fit isThere goes.shifts⟩

lemma swept (sound : Sound S t) {id : Nat} (watched : t.taskState.Watched (some (.loop id)))
    (timed : t.taskState.Timed) (found : t.loop? id = some l)
    (idle : ∀ which, Idle t.now t.result? l which) : Attentive S (t.swept id) := by
  refine ⟨sound.swept id, ?_, timed.sorted, timed.later, timed.fetches,
    fun l mem => timed.loops l (List.mem_filter.mp mem).1⟩
  refine TaskState.Watched.of_not_due (fun task due => watched task ?_) fun due => ?_
  · cases due with
    | fetch mem due => exact .fetch mem due
    | caller mem due => exact .caller mem due
    | loop mem restless => exact .loop (List.mem_filter.mp mem).1 restless
  · generalize isTask : TaskId.loop id = task at due
    cases due with
    | @loop l' mem restless =>
      obtain ⟨mem, stays⟩ := List.mem_filter.mp mem
      obtain ⟨isThere, own⟩ := TaskState.mem_of_loop? (g := t.taskState) found
      have same : l'.id = l.id := (TaskId.loop.inj isTask).symm.trans own.symm
      obtain rfl := List.inj_on_of_nodup_map sound.fit.loops mem isThere same
      refine restless ⟨?_, idle⟩
      simpa [own] using stays
    | fetch | caller => cases isTask

lemma stepLoop (sound : Sound S t) {id : Nat} (watched : t.taskState.Watched (some (.loop id)))
    (timed : t.taskState.Timed) : Attentive S (t.stepLoop S id) := by
  obtain ⟨absent, same⟩ | ⟨_, _, _, _, -, first, last, stepped, l, found, idle⟩ :=
    sound.stepLoop_spins id
  · rw [same]
    refine ⟨sound, watched.of_not_due fun due => ?_, timed⟩
    generalize isTask : TaskId.loop id = task at due
    cases due with
    | @loop l mem =>
      have none := List.find?_eq_none.mp absent l mem
      simp [(TaskId.loop.inj isTask).symm] at none
    | fetch | caller => cases isTask
  · rw [stepped]
    obtain ⟨watched, timed⟩ := turned id watched timed
    obtain ⟨watched, timed⟩ := spins (sound.turned id) watched timed first
    have sound := (sound.turned id).spins first
    obtain ⟨watched, timed⟩ := spins sound watched timed last
    exact swept (sound.spins last) watched timed found idle

/-! ### Any task, and time -/

/-- When the task that became ready first has gone on, still nobody is forgotten. -/
theorem next (h : Attentive S t) : Attentive S (t.next S) := by
  cases ready : t.ready with
  | nil =>
    rw [Timeline.next, ready]
    exact h
  | cons task rest =>
    rw [Timeline.next, ready]
    have sound := h.sound.popped rest
    have watched := h.watched_popped ready
    have timed : ({ t with ready := rest } : Timeline σ).taskState.Timed :=
      ⟨h.timed.sorted, h.timed.later, h.timed.fetches, h.timed.loops⟩
    cases task with
    | fetch kind round => exact stepFetch sound watched timed
    | caller id => exact stepCaller sound watched timed
    | loop id => exact stepLoop sound watched timed

/-- When the clock has moved on, still nobody is forgotten. -/
theorem moveTo (h : Attentive S t) (time : Nat) : Attentive S (t.moveTo time) := by
  refine ⟨h.sound.moveTo time, ?_, ?_⟩
  · rw [taskState_moveTo]
    exact h.watched.moveTo h.timed time
  · rw [taskState_moveTo]
    exact h.timed.moveTo time

lemma settle (h : Attentive S t) : Attentive S (t.settle S) :=
  settle_induction (fun _ before => before.next) h

/-- Where no task is ready, nothing can go on. -/
lemma not_due (h : Attentive S t) (rest : t.ready = []) (task : TaskId) :
    ¬ t.taskState.Due task := by
  intro due
  have there : task ∈ t.ready := h.watched.ready due
  rw [rest] at there
  cases there

end Attentive

end MetricWatch.Timeline
