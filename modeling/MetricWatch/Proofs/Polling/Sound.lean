import MetricWatch.Proofs.Polling.TaskState
import MetricWatch.Proofs.Polling.LoopState
import MetricWatch.Proofs.Rounds.Reach
import MetricWatch.Proofs.Rounds.Callers
import Mathlib.Logic.Relation

/-!
# Sound timelines

A timeline is sound when it came out of a run and its tasks fit: callers and loops are told apart by
their numbers, what is fetched has brought nothing yet, and schedules have a period. Tasks that go
on keep it sound, and a loop that goes on leaves both its schedules with nothing to do. The main
statements are `Sound.step` and `Sound.stepLoop`.
-/

namespace MetricWatch

/-! ### From stage to stage -/

/-- The ways in which a schedule passes from stage to stage at a time. -/
inductive Passes (now : Nat) (cancelled : Bool) (s : Poller.Schedule) : Poller.Schedule → Prop
  | stops (isCancelled : cancelled = true) (running : s.isStopped = false) :
      Passes now cancelled s { s with stage := .stopped }
  | ticks {armed : Bool} {stage : Poller.Stage} (live : cancelled = false)
      (resting : s.stage = .resting armed) (due : s.due ≤ now)
      (next : stage = .resting false ∨ (∃ round failed, stage = .inRound round failed) ∨
        ∃ until_ nodes, stage = .refreshing until_ nodes) :
      Passes now cancelled s ⟨s.period, Poller.nextDue s.period s.due now, stage⟩
  | arms (live : cancelled = false) (resting : s.stage = .resting false) (early : now < s.due) :
      Passes now cancelled s { s with stage := .resting true }
  | takesNodes {until_ : Nat} {nodes : Except Api.Error (List String)} {stage : Poller.Stage}
      (live : cancelled = false) (refreshing : s.stage = .refreshing until_ nodes)
      (next : stage = .resting false ∨ ∃ round failed, stage = .inRound round failed) :
      Passes now cancelled s { s with stage := stage }
  | takesRound {round : Nat} {failed : Bool} (live : cancelled = false)
      (inRound : s.stage = .inRound round failed) :
      Passes now cancelled s { s with stage := .resting false }

/-- How many stages a schedule can still pass at a time, at most. -/
def Poller.Schedule.slack (s : Poller.Schedule) (now : Nat) : Nat :=
  4 * (now + 1 - s.due) + match s.stage with
    | .stopped => 0
    | .resting true => 1
    | .resting false => 2
    | .inRound _ _ => 3
    | .refreshing _ _ => 4

/-- When a schedule wants to be woken, if it set a timer for it. -/
def Poller.Schedule.alarm? (s : Poller.Schedule) : Option Nat :=
  match s.stage with
  | .resting true => some s.due
  | .refreshing until_ _ => some until_
  | .resting false | .inRound _ _ | .stopped => none

lemma Poller.le_nextDue (period due now : Nat) : due + period ≤ Poller.nextDue period due now := by
  unfold Poller.nextDue
  split <;> omega

namespace Passes

variable {now : Nat} {cancelled : Bool} {s s' : Poller.Schedule}

lemma period (h : Passes now cancelled s s') : s'.period = s.period := by cases h <;> rfl

/-- Every tick moves the due time on, so the stages that a schedule can pass run out. -/
lemma slack_lt (h : Passes now cancelled s s') (period : 1 ≤ s.period) :
    s'.slack now < s.slack now := by
  cases h with
  | stops _ running =>
    unfold Poller.Schedule.slack
    cases stage : s.stage with
    | stopped => simp [Poller.Schedule.isStopped, stage] at running
    | resting armed => cases armed <;> simp
    | refreshing | inRound => simp
  | @ticks armed stage _ resting due next =>
    have later := Poller.le_nextDue s.period s.due now
    have most (n : Nat) (few : n ≤ 4) :
        4 * (now + 1 - Poller.nextDue s.period s.due now) + n < 4 * (now + 1 - s.due) + 1 := by
      omega
    have least : 4 * (now + 1 - s.due) + 1 ≤ s.slack now := by
      unfold Poller.Schedule.slack
      rw [resting]
      cases armed <;> simp
    refine Nat.lt_of_lt_of_le ?_ least
    rcases next with rfl | ⟨round, failed, rfl⟩ | ⟨until_, nodes, rfl⟩
    · exact most 2 (by omega)
    · exact most 3 (by omega)
    · exact most 4 (by omega)
  | arms _ resting => simp [Poller.Schedule.slack, resting]
  | takesNodes _ refreshing next =>
    rcases next with rfl | ⟨round, failed, rfl⟩ <;> simp [Poller.Schedule.slack, refreshing]
  | takesRound _ inRound => simp [Poller.Schedule.slack, inRound]

end Passes

namespace Timeline

variable {σ : Type} {S : Source σ} {t t' : Timeline σ} {l : Poller.Loop} {which : Poller.Which}

namespace TaskState

variable {g g' : TaskState}

/-! ### Loops by their number -/

/-- The loop of a number, while it runs. -/
def loop? (g : TaskState) (id : Nat) : Option Poller.Loop := g.loops.find? fun l => l.id = id

lemma mem_of_loop? {id : Nat} (found : g.loop? id = some l) : l ∈ g.loops ∧ l.id = id :=
  ⟨List.mem_of_find?_eq_some found, by simpa using List.find?_some found⟩

lemma id_withSchedule (l : Poller.Loop) (which : Poller.Which) (s : Poller.Schedule) :
    (l.withSchedule which s).id = l.id := by cases which <;> rfl

@[simp] lemma schedule_withSchedule (l : Poller.Loop) (which : Poller.Which)
    (s : Poller.Schedule) : (l.withSchedule which s).schedule which = s := by cases which <;> rfl

lemma schedule_withSchedule_other {other : Poller.Which} (h : other ≠ which) (l : Poller.Loop)
    (s : Poller.Schedule) : (l.withSchedule which s).schedule other = l.schedule other := by
  cases which <;> cases other <;> first | rfl | exact absurd rfl h

lemma loop?_setSchedule (g : TaskState) (id : Nat) (which : Poller.Which) (s : Poller.Schedule) :
    (g.setSchedule id which s).loop? id
      = (g.loop? id).map fun l => l.withSchedule which s := by
  unfold loop? setSchedule
  dsimp only
  induction g.loops with
  | nil => rfl
  | cons l loops ih =>
    by_cases own : l.id = id
    · simp [own, id_withSchedule]
    · simpa [own] using ih

lemma ids_setSchedule (g : TaskState) (id : Nat) (which : Poller.Which) (s : Poller.Schedule) :
    (g.setSchedule id which s).loops.map Poller.Loop.id = g.loops.map Poller.Loop.id := by
  simp only [setSchedule, List.map_map]
  refine List.map_congr_left fun l _ => ?_
  simp only [Function.comp_apply]
  split
  · exact id_withSchedule l which s
  · rfl

/-! ### What calls and schedules leave alone -/

lemma mem_woken {ready : List TaskId} {task other : TaskId} :
    other ∈ woken ready task ↔ other ∈ ready ∨ other = task := by
  unfold woken
  split
  next there =>
    refine ⟨.inl, ?_⟩
    rintro (old | rfl)
    · exact old
    · exact there
  next => simp

lemma mem_foldl_woken {ready tasks : List TaskId} {other : TaskId} :
    other ∈ tasks.foldl woken ready ↔ other ∈ ready ∨ other ∈ tasks := by
  induction tasks generalizing ready with
  | nil => simp
  | cons task tasks ih => rw [List.foldl_cons, ih, mem_woken, List.mem_cons, or_assoc]

/-- Whether one state of the tasks comes out of another without any result or any change of the clock,
the gates or the callers; what is fetched anew is ready to ask. -/
structure Keeps (g g' : TaskState) : Prop where
  now : g'.now = g.now
  isOpen : g'.isOpen = g.isOpen
  result? : g'.result? = g.result?
  callers : g'.callers = g.callers
  ready : g.ready ⊆ g'.ready
  fetches : ∀ f ∈ g'.fetches, f ∈ g.fetches ∨ (∃ items, f.stage = .begun items) ∧
    g.result? f.kind f.round = none ∧ .fetch f.kind f.round ∈ g'.ready

namespace Keeps

lemma refl (g : TaskState) :
    Keeps g g := ⟨rfl, rfl, rfl, rfl, fun _ mem => mem, fun _ mem => .inl mem⟩

/-- Loops and timers may be changed besides. -/
lemma withLoops (h : Keeps g g') (loops : List Poller.Loop) (timers : List Timer) :
    Keeps g { g' with loops := loops, timers := timers } :=
  ⟨h.now, h.isOpen, h.result?, h.callers, h.ready, h.fetches⟩

lemma wake (g : TaskState) (task : TaskId) : Keeps g (g.wake task) :=
  ⟨rfl, rfl, rfl, rfl, fun _ mem => mem_woken.mpr (.inl mem), fun _ mem => .inl mem⟩

end Keeps

lemma Enters.keeps {kind : RoundKind} {round : Nat} (h : g.Enters kind round g') :
    Keeps g g' ∧ g'.loops = g.loops ∧ g'.timers = g.timers := by
  cases h with
  | joined => exact ⟨.refl g, rfl, rfl⟩
  | started unknown items =>
    refine ⟨⟨rfl, rfl, rfl, rfl, fun _ mem => mem_woken.mpr (.inl mem), fun f mem => ?_⟩, rfl, rfl⟩
    rcases List.mem_append.mp mem with old | new
    · exact .inl old
    · rw [List.mem_singleton.mp new]
      exact .inr ⟨⟨items, rfl⟩, unknown, mem_woken.mpr (.inr rfl)⟩

/-- What a call fetches anew is its round. -/
lemma Enters.fetches {kind : RoundKind} {round : Nat} (h : g.Enters kind round g') :
    ∀ f ∈ g'.fetches, f ∈ g.fetches ∨ f.kind = kind ∧ f.round = round := by
  intro f mem
  cases h with
  | joined => exact .inl mem
  | started =>
    refine (List.mem_append.mp mem).imp_right fun new => ?_
    rw [List.mem_singleton.mp new]
    exact ⟨rfl, rfl⟩

lemma Begins.keeps {id : Nat} {s : Poller.Schedule} (h : g.Begins id which s g') :
    Keeps g g' ∧ g'.timers = g.timers ∧
      ∃ stage : Poller.Stage,
        (stage = .resting false ∨ ∃ round failed, stage = .inRound round failed) ∧
          g'.loops = (g.setSchedule id which { s with stage := stage }).loops ∧
          ∀ f ∈ g'.fetches, f ∈ g.fetches ∨
            f.kind = kindOf which ∧ ∃ failed, stage = .inRound f.round failed := by
  cases h with
  | declined =>
    exact ⟨(Keeps.refl g).withLoops _ _, rfl, _, .inl rfl, rfl, fun _ mem => .inl mem⟩
  | @admitted round g' enters failed =>
    obtain ⟨keeps, loops, timers⟩ := enters.keeps
    refine ⟨keeps.withLoops _ _, timers, .inRound round failed, .inr ⟨round, failed, rfl⟩, ?_,
      fun f mem => ?_⟩
    · simp only [setSchedule, loops]
    · refine (enters.fetches f mem).imp_right ?_
      rintro ⟨kind, rfl⟩
      exact ⟨kind, failed, rfl⟩

/-- What it does to the tasks when a schedule of a loop passes to another stage. Only names
schedules come to refresh the nodes, what is fetched anew is the round that the schedule then waits
for, and whoever wants to be woken sets a timer. -/
structure Goes (g : TaskState) (l : Poller.Loop) (which : Poller.Which) (s' : Poller.Schedule)
    (g' : TaskState) : Prop where
  passes : Passes g.now l.cancelled (l.schedule which) s'
  loops : g'.loops = (g.setSchedule l.id which s').loops
  keeps : Keeps g g'
  ofNames : ∀ until_ nodes, s'.stage = .refreshing until_ nodes → which = .names
  awaited : ∀ f ∈ g'.fetches, f ∈ g.fetches ∨
    f.kind = kindOf which ∧ ∃ failed, s'.stage = .inRound f.round failed
  alarm : (s'.alarm? = none ∧ g'.timers = g.timers) ∨
    ∃ due, s'.alarm? = some due ∧ g.now < due ∧
      g'.timers = insertTimer ⟨due, .loop l.id⟩ g.timers

/-- What it does to the tasks when a schedule of a loop is put at another stage, whether it passes to
it in its turn or not. -/
structure Shifts (g : TaskState) (l : Poller.Loop) (which : Poller.Which) (s' : Poller.Schedule)
    (g' : TaskState) : Prop where
  period : s'.period = (l.schedule which).period
  loops : g'.loops = (g.setSchedule l.id which s').loops
  keeps : Keeps g g'
  ofNames : ∀ until_ nodes, s'.stage = .refreshing until_ nodes → which = .names
  alarm : (s'.alarm? = none ∧ g'.timers = g.timers) ∨
    ∃ due, s'.alarm? = some due ∧ g.now < due ∧
      g'.timers = insertTimer ⟨due, .loop l.id⟩ g.timers

lemma Goes.shifts {s' : Poller.Schedule} (goes : g.Goes l which s' g') : g.Shifts l which s' g' :=
  ⟨goes.passes.period, goes.loops, goes.keeps, goes.ofNames, goes.alarm⟩

/-- A schedule that goes on passes to another stage. -/
lemma Turn.goes (h : g.Turn l which g') : ∃ s', g.Goes l which s' g' := by
  cases h with
  | stops cancelled running =>
    exact ⟨_, .stops cancelled running, rfl, (Keeps.refl g).withLoops _ _, nofun,
      fun _ mem => .inl mem, .inl ⟨rfl, rfl⟩⟩
  | ticks live resting due begins =>
    obtain ⟨keeps, timers, stage, next, loops, awaited⟩ := begins.keeps
    refine ⟨_, .ticks live resting due (next.imp_right .inl), loops, keeps, ?_, awaited,
      .inl ⟨?_, timers⟩⟩
    · rcases next with rfl | ⟨_, _, rfl⟩ <;> exact nofun
    · rcases next with rfl | ⟨_, _, rfl⟩ <;> rfl
  | refreshes live resting due ofNames later nodes =>
    exact ⟨_, .ticks live resting due (.inr (.inr ⟨_, nodes, rfl⟩)), rfl,
      (Keeps.refl g).withLoops _ _, fun _ _ _ => ofNames, fun _ mem => .inl mem,
      .inr ⟨_, rfl, later, rfl⟩⟩
  | arms live resting early =>
    exact ⟨_, .arms live resting early, rfl, (Keeps.refl g).withLoops _ _, nofun,
      fun _ mem => .inl mem, .inr ⟨_, rfl, early, rfl⟩⟩
  | takesNodes live refreshing _ begins =>
    obtain ⟨keeps, timers, stage, next, loops, awaited⟩ := begins.keeps
    refine ⟨_, .takesNodes live refreshing next, loops, keeps, ?_, awaited, .inl ⟨?_, timers⟩⟩
    · rcases next with rfl | ⟨_, _, rfl⟩ <;> exact nofun
    · rcases next with rfl | ⟨_, _, rfl⟩ <;> rfl
  | takesRound live inRound _ again =>
    refine ⟨_, .takesRound live inRound, ?_, ?_, nofun, fun f mem => .inl ?_, .inl ⟨rfl, ?_⟩⟩
    · cases again <;> rfl
    · cases again with
      | true => exact (Keeps.wake g _).withLoops _ _
      | false => exact (Keeps.refl g).withLoops _ _
    · cases again <;> exact mem
    · cases again <;> rfl

/-! ### Tasks that fit -/

/-- Tasks that fit: callers and loops are told apart by their numbers, what is fetched has brought
nothing yet, schedules have a period, and only names schedules refresh the nodes. -/
structure Fit (g : TaskState) : Prop where
  callers : (g.callers.map Caller.id).Nodup
  loops : (g.loops.map Poller.Loop.id).Nodup
  pending : ∀ f ∈ g.fetches, g.result? f.kind f.round = none
  periods : ∀ l ∈ g.loops, ∀ which, 1 ≤ (l.schedule which).period
  plain : ∀ l ∈ g.loops, ∀ until_ nodes, l.list.stage ≠ .refreshing until_ nodes

namespace Fit

lemma loop?_of_mem (h : g.Fit) (isThere : l ∈ g.loops) : g.loop? l.id = some l := by
  cases found : g.loop? l.id with
  | none => exact absurd (List.find?_eq_none.mp found l isThere) (by simp)
  | some l' =>
    obtain ⟨isThere', same⟩ := mem_of_loop? found
    rw [List.inj_on_of_nodup_map h.loops isThere' isThere same]

/-- The clock, the gates, the tasks that are ready and the timers do not matter, and loops may go. -/
lemma of_sublist (h : g.Fit) (callers : g'.callers = g.callers)
    (loops : g'.loops.Sublist g.loops) (result? : g'.result? = g.result?)
    (fetches : g'.fetches = g.fetches) : g'.Fit := by
  refine ⟨callers ▸ h.callers, h.loops.sublist (loops.map _), ?_,
    fun l isThere => h.periods l (loops.subset isThere),
    fun l isThere => h.plain l (loops.subset isThere)⟩
  rw [fetches, result?]
  exact h.pending

lemma shifts (h : g.Fit) (found : g.loop? l.id = some l) {s' : Poller.Schedule}
    (shifts : g.Shifts l which s' g') : g'.Fit := by
  have isThere := (mem_of_loop? found).1
  have changed (l' : Poller.Loop) (mem : l' ∈ g'.loops) :
      l' ∈ g.loops ∨ l' = l.withSchedule which s' := by
    rw [shifts.loops] at mem
    obtain ⟨l₀, mem₀, same⟩ := List.mem_map.mp mem
    split at same
    next own =>
      have isL := List.inj_on_of_nodup_map h.loops mem₀ isThere own
      rw [← same, isL]
      exact .inr rfl
    next =>
      rw [← same]
      exact .inl mem₀
  refine ⟨?_, ?_, ?_, ?_, ?_⟩
  · rw [shifts.keeps.callers]
    exact h.callers
  · rw [shifts.loops, ids_setSchedule]
    exact h.loops
  · intro f mem
    rw [shifts.keeps.result?]
    rcases shifts.keeps.fetches f mem with old | ⟨-, unknown, -⟩
    · exact h.pending f old
    · exact unknown
  · intro l' mem other
    rcases changed l' mem with old | rfl
    · exact h.periods l' old other
    · by_cases own : other = which
      · subst own
        rw [schedule_withSchedule, shifts.period]
        exact h.periods l isThere other
      · rw [schedule_withSchedule_other own]
        exact h.periods l isThere other
  · intro l' mem until_ nodes
    rcases changed l' mem with old | rfl
    · exact h.plain l' old until_ nodes
    · cases which with
      | list =>
        intro refreshing
        cases shifts.ofNames until_ nodes refreshing
      | names => exact h.plain l isThere until_ nodes

lemma setStage (h : g.Fit) (kind : RoundKind) (round : Nat) (stage : FetchStage)
    (timers : List Timer) : ({ g.setStage kind round stage with timers := timers }).Fit := by
  refine ⟨h.callers, h.loops, List.forall_mem_map.mpr fun f mem => ?_, h.periods, h.plain⟩
  split <;> exact h.pending f mem

lemma fetchTurn (h : g.Fit) {f : Fetch} (turn : g.FetchTurn f g') : g'.Fit := by
  cases turn with
  | stays => exact h
  | holds => exact h.setStage f.kind f.round _ g.timers
  | waits => exact h.setStage f.kind f.round _ _
  | ends result =>
    refine ⟨h.callers, h.loops, fun f' mem => ?_, h.periods, h.plain⟩
    obtain ⟨mem, other⟩ := List.mem_filter.mp mem
    have other : ¬ (f.kind = f'.kind ∧ f.round = f'.round) := by
      rintro ⟨kind, round⟩
      simp [kind, round] at other
    simp only [finish, if_neg other]
    exact h.pending f' mem

lemma setCaller (h : g.Fit) (id : Nat) (stage : CallerStage) : (g.setCaller id stage).Fit := by
  have ids : (g.setCaller id stage).callers.map Caller.id = g.callers.map Caller.id := by
    simp only [TaskState.setCaller, List.map_map]
    refine List.map_congr_left fun c _ => ?_
    simp only [Function.comp_apply]
    split <;> rfl
  exact ⟨ids ▸ h.callers, h.loops, h.pending, h.periods, h.plain⟩

lemma enters (h : g.Fit) {kind : RoundKind} {round : Nat} (enters : g.Enters kind round g') :
    g'.Fit := by
  obtain ⟨keeps, loops, -⟩ := enters.keeps
  refine ⟨keeps.callers ▸ h.callers, loops ▸ h.loops, fun f mem => ?_, loops ▸ h.periods,
    loops ▸ h.plain⟩
  rw [keeps.result?]
  rcases keeps.fetches f mem with old | ⟨-, unknown, -⟩
  · exact h.pending f old
  · exact unknown

lemma callerTurn (h : g.Fit) {c : Caller} (turn : g.CallerTurn c g') : g'.Fit := by
  cases turn with
  | stays => exact h
  | served | declined => exact h.setCaller _ _
  | admitted _ enters => exact (h.enters enters).setCaller _ _

end Fit

end TaskState

/-! ### Sound timelines -/

/-- Timelines that came out of a run, whose tasks fit, and whose loops were numbered as they
began. -/
structure Sound (S : Source σ) (t : Timeline σ) : Prop where
  run : ∃ marks, Run S marks t
  fit : t.taskState.Fit
  numbered : ∀ l ∈ t.loops, l.id < t.loopCount

/-- Turns of a schedule, one after the other. -/
def Spins (S : Source σ) (id : Nat) (which : Poller.Which) : Timeline σ → Timeline σ → Prop :=
  Relation.ReflTransGen fun t t' => t.stepSchedule S id which = some t'

namespace Sound

lemma isAhead (h : Sound S t) : t.IsAhead := by
  obtain ⟨_, run⟩ := h.run
  exact fun kind => run.orderly.result?_nextRound kind

lemma ofKind (h : Sound S t) {f : Fetch} (isThere : f ∈ t.fetches) {gathered : Gathered}
    (asked : f.stage.gathered? = some gathered) : gathered.kind = f.kind := by
  obtain ⟨_, run⟩ := h.run
  exact (run.orderly.answered isThere asked).2.1

/-- There is at most one fetch of a kind. -/
lemma length_fetches_le (h : Sound S t) (kind : RoundKind) :
    (t.fetches.filter fun f => f.kind = kind).length ≤ 1 := by
  obtain ⟨_, run⟩ := h.run
  exact (run.orderly.phase kind).length_fetches_le

lemma fetches_eq (h : Sound S t) {f : Fetch} (isThere : f ∈ t.fetches) :
    (t.fetches.filter fun f' => f'.kind = f.kind) = [f] := by
  have own : f ∈ t.fetches.filter fun f' => f'.kind = f.kind :=
    List.mem_filter.mpr ⟨isThere, by simp⟩
  obtain ⟨a, single⟩ := List.length_eq_one_iff.mp
    (Nat.le_antisymm (h.length_fetches_le f.kind) (List.length_pos_of_mem own))
  rw [single] at own ⊢
  rw [List.mem_singleton.mp own]

lemma of_reaches (h : Sound S t) (reaches : Reaches S t t') (fit : t'.taskState.Fit)
    (m : Meanwhile t.loopState t'.loopState) : Sound S t' := by
  obtain ⟨_, run⟩ := h.run
  obtain ⟨_, longer⟩ := run.reaches reaches
  refine ⟨⟨_, longer⟩, fit, fun l isThere => ?_⟩
  obtain ⟨l', isThere', same⟩ :=
    List.mem_map.mp (m.tokens.subset (List.mem_map_of_mem (f := Poller.Loop.token) isThere))
  have given := h.numbered l' isThere'
  rw [show l'.id = l.id from congrArg Poller.Token.id same] at given
  exact Nat.lt_of_lt_of_eq given m.loopCount.symm

/-- What only wakes tasks, sets timers or ends loops keeps a timeline sound. -/
lemma of_work (h : Sound S t) (work : t'.work = t.work) (loops : t'.loops.Sublist t.loops)
    (poller : t'.poller = t.poller) (loopCount : t'.loopCount = t.loopCount) : Sound S t' := by
  have result? : t'.taskState.result? = t.taskState.result? := by
    funext kind round
    have store : t'.store = t.store := congrArg Work.store work
    simp only [taskState, Timeline.result?, store]
  exact h.of_reaches (.aside work)
    (h.fit.of_sublist (congrArg Work.callers work) loops result? (congrArg Work.fetches work))
    ⟨poller, loopCount, loops.map _⟩

/-! ### Turns of a loop -/

/-- A schedule that goes on passes to another stage, and the timeline is sound as before. -/
lemma stepSchedule (h : Sound S t) {id : Nat} (stepped : t.stepSchedule S id which = some t') :
    Sound S t' ∧ ∃ l, t.loop? id = some l ∧ l.id = id ∧
      ∃ s', t.taskState.Goes l which s' t'.taskState := by
  obtain ⟨l, found, turn⟩ := turn_of_some stepped
  obtain ⟨isThere, own⟩ := TaskState.mem_of_loop? (g := t.taskState) found
  have loopState := turn.loopState
  have turn := turn.taskState h.isAhead (h.fit.plain l isThere)
  obtain ⟨s', goes⟩ := turn.goes
  have fit := h.fit.shifts (by rw [own]; exact found) goes.shifts
  exact ⟨h.of_reaches (stepSchedule_reaches S id which stepped) fit (.of_eq loopState), l, found,
    own,
    s', goes⟩

lemma spins (h : Sound S t) {id : Nat} (spins : Spins S id which t t') : Sound S t' := by
  induction spins with
  | refl => exact h
  | tail _ stepped ih => exact (ih.stepSchedule stepped).1

/-- What a turn leaves of the loop. -/
lemma stepSchedule_loop? (h : Sound S t) {id : Nat} (found : t.loop? id = some l)
    (stepped : t.stepSchedule S id which = some t') :
    ∃ s', t.taskState.Goes l which s' t'.taskState ∧
      t'.loop? id = some (l.withSchedule which s') ∧ s'.slack t'.now < (l.schedule which).slack t.now := by
  obtain ⟨-, l', found', own, s', goes⟩ := h.stepSchedule stepped
  obtain rfl : l' = l := Option.some.inj (found'.symm.trans found)
  have now : t'.now = t.now := goes.keeps.now
  have loops : t'.taskState.loop? id = (t.taskState.setSchedule l'.id which s').loop? id := by
    rw [TaskState.loop?, goes.loops]
    rfl
  refine ⟨s', goes, ?_, ?_⟩
  · refine loops.trans ?_
    rw [own, TaskState.loop?_setSchedule]
    exact congrArg (Option.map _) found
  · rw [now]
    exact goes.passes.slack_lt
      (h.fit.periods l' (TaskState.mem_of_loop? (g := t.taskState) found).1 which)

/-- A schedule goes on until it has nothing to do. -/
lemma runSchedule (h : Sound S t) {id : Nat} (found : t.loop? id = some l) {fuel : Nat}
    (enough : (l.schedule which).slack t.now ≤ fuel) :
    Spins S id which t (runSchedule S id which fuel t) ∧
      (Timeline.runSchedule S id which fuel t).stepSchedule S id which = none := by
  induction fuel generalizing t l with
  | zero =>
    refine ⟨.refl, ?_⟩
    cases stepped : t.stepSchedule S id which with
    | none => exact stepped
    | some t' =>
      obtain ⟨s', -, -, less⟩ := h.stepSchedule_loop? found stepped
      omega
  | succ fuel ih =>
    cases stepped : t.stepSchedule S id which with
    | none =>
      rw [Timeline.runSchedule, stepped]
      exact ⟨.refl, stepped⟩
    | some t' =>
      obtain ⟨s', -, found', less⟩ := h.stepSchedule_loop? found stepped
      rw [Timeline.runSchedule, stepped]
      obtain ⟨spins, stuck⟩ := ih (h.stepSchedule stepped).1 found' (by
        rw [TaskState.schedule_withSchedule]
        omega)
      exact ⟨.head stepped spins, stuck⟩

end Sound

/-! ### A loop that goes on -/

/-- The timeline when a loop begins to go on: next time the other schedule will be looked at
first. -/
def turned (t : Timeline σ) (id : Nat) : Timeline σ :=
  t.changeLoop id fun l => { l with namesFirst := !l.namesFirst }

/-- The timeline when a loop has gone on: it is gone if it has ended. -/
def swept (t : Timeline σ) (id : Nat) : Timeline σ :=
  { t with loops := t.loops.filter fun l => ¬ (l.id = id ∧ l.isFinished) }

/-- The timeline when a schedule has gone on for as long as it has something to do. -/
def ran (S : Source σ) (t : Timeline σ) (id : Nat) (which : Poller.Which) : Timeline σ :=
  runSchedule S id which (t.scheduleFuel id which) t

lemma loop?_turned (t : Timeline σ) (id : Nat) :
    (t.turned id).loop? id
      = (t.loop? id).map fun l => { l with namesFirst := !l.namesFirst } := by
  unfold loop? turned changeLoop
  dsimp only
  induction t.loops with
  | nil => rfl
  | cons l loops ih =>
    by_cases own : l.id = id
    · simp [own]
    · simpa [own] using ih

/-- Whether a schedule has something to do does not depend on what else its loop does. -/
lemma Idle.congr {now : Nat} {result? : RoundKind → Nat → Option CallResult} {l l' : Poller.Loop}
    (h : Idle now result? l which) (cancelled : l'.cancelled = l.cancelled)
    (schedule : l'.schedule which = l.schedule which) : Idle now result? l' which := by
  cases h with
  | stopped isStopped => exact .stopped (schedule ▸ isStopped)
  | resting live resting early =>
    exact .resting (cancelled ▸ live) (schedule ▸ resting) (schedule ▸ early)
  | refreshing live refreshing early =>
    exact .refreshing (cancelled ▸ live) (schedule ▸ refreshing) early
  | inRound live inRound pending => exact .inRound (cancelled ▸ live) (schedule ▸ inRound) pending

lemma loops_moveTo (t : Timeline σ) (time : Nat) : (t.moveTo time).loops = t.loops :=
  congrArg TaskState.loops (taskState_wakeAll _ _)

namespace Sound

lemma turned (h : Sound S t) (id : Nat) : Sound S (t.turned id) := by
  refine h.of_reaches (.aside rfl) ⟨h.fit.callers, ?_, h.fit.pending, ?_, ?_⟩
    (.of_eq (t.loopState_changeLoop id fun _ => rfl))
  · have ids : (t.turned id).loops.map Poller.Loop.id = t.loops.map Poller.Loop.id := by
      simp only [Timeline.turned, changeLoop, List.map_map]
      refine List.map_congr_left fun l _ => ?_
      simp only [Function.comp_apply]
      split <;> rfl
    exact ids ▸ h.fit.loops
  · refine List.forall_mem_map.mpr fun l mem other => ?_
    have period := h.fit.periods l mem other
    split
    · cases other <;> exact period
    · exact period
  · refine List.forall_mem_map.mpr fun l mem => ?_
    split <;> exact h.fit.plain l mem

lemma swept (h : Sound S t) (id : Nat) : Sound S (t.swept id) :=
  h.of_work rfl List.filter_sublist rfl rfl

/-- While one schedule goes on, the other one of the loop stays as it is. -/
lemma spins_other (h : Sound S t) {id : Nat} {other : Poller.Which} (distinct : other ≠ which)
    (spins : Spins S id which t t') (found : t.loop? id = some l) :
    t'.now = t.now ∧ t'.result? = t.result? ∧
      ∃ l', t'.loop? id = some l' ∧ l'.cancelled = l.cancelled ∧
        l'.schedule other = l.schedule other := by
  induction spins with
  | refl => exact ⟨rfl, rfl, l, found, rfl, rfl⟩
  | tail before stepped ih =>
    obtain ⟨now, result?, l', found', cancelled, schedule⟩ := ih
    obtain ⟨s', goes, found'', -⟩ := (h.spins before).stepSchedule_loop? found' stepped
    refine ⟨goes.keeps.now.trans now, goes.keeps.result?.trans result?, _, found'', ?_, ?_⟩
    · rw [← cancelled]
      cases which <;> rfl
    · rw [TaskState.schedule_withSchedule_other distinct, schedule]

/-- A schedule has fuel enough to go on until it has nothing to do. -/
lemma ran (h : Sound S t) {id : Nat} (found : t.loop? id = some l) (which : Poller.Which) :
    Spins S id which t (t.ran S id which) ∧ (t.ran S id which).stepSchedule S id which = none := by
  refine h.runSchedule found ?_
  have weight : (l.schedule which).slack t.now ≤ 4 * (t.now + 1 - (l.schedule which).due) + 4 := by
    unfold Poller.Schedule.slack
    split <;> omega
  simp only [scheduleFuel, found, Poller.grace]
  omega

/-- When both schedules of a loop have gone on, neither of them has anything to do. -/
lemma ran_both (h : Sound S t) {id : Nat} (found : t.loop? id = some l) {first last : Poller.Which}
    (distinct : first ≠ last) :
    let u := t.ran S id first
    let v := u.ran S id last
    Spins S id first t u ∧ Spins S id last u v ∧
      ∃ l, v.loop? id = some l ∧ ∀ which, Idle v.now v.result? l which := by
  intro u v
  have idle {t : Timeline σ} {l : Poller.Loop} {which : Poller.Which} (found : t.loop? id = some l)
      (stuck : t.stepSchedule S id which = none) : Idle t.now t.result? l which := by
    obtain ⟨t', stepped, -⟩ | ⟨-, idle⟩ := turn found S which
    · rw [stuck] at stepped
      cases stepped
    · exact idle
  obtain ⟨spins, stuck⟩ := h.ran found first
  obtain ⟨-, -, l₁, found₁, -⟩ := h.spins_other distinct.symm spins found
  obtain ⟨spins', stuck'⟩ := (h.spins spins).ran found₁ last
  obtain ⟨now, result?, l₂, found₂, cancelled, schedule⟩ :=
    (h.spins spins).spins_other distinct spins' found₁
  refine ⟨spins, spins', l₂, found₂, fun which => ?_⟩
  by_cases isLast : which = last
  · subst isLast
    exact idle found₂ stuck'
  · have isFirst : which = first := by
      cases which <;> cases first <;> cases last <;> simp_all
    subst isFirst
    rw [now, result?]
    exact (idle found₁ stuck).congr cancelled schedule

/-- A loop lets one schedule go on until it has nothing to do, and then the other. -/
lemma stepLoop_spins (h : Sound S t) (id : Nat) :
    (t.loop? id = none ∧ t.stepLoop S id = t) ∨
      ∃ first last u v, first ≠ last ∧ Spins S id first (t.turned id) u ∧ Spins S id last u v ∧
        t.stepLoop S id = v.swept id ∧
        ∃ l, v.loop? id = some l ∧ ∀ which, Idle v.now v.result? l which := by
  cases found : t.loop? id with
  | none => exact .inl ⟨rfl, by rw [Timeline.stepLoop, found]⟩
  | some l =>
    have foundTurned : (t.turned id).loop? id = some { l with namesFirst := !l.namesFirst } := by
      rw [loop?_turned, found]
      rfl
    refine .inr ?_
    cases order : l.namesFirst with
    | true =>
      have distinct : Poller.Which.names ≠ .list := nofun
      obtain ⟨first, last, idle⟩ := (h.turned id).ran_both foundTurned distinct
      refine ⟨.names, .list, _, _, distinct, first, last, ?_, idle⟩
      rw [Timeline.stepLoop, found]
      simp only [order, if_true]
      rfl
    | false =>
      have distinct : Poller.Which.list ≠ .names := nofun
      obtain ⟨first, last, idle⟩ := (h.turned id).ran_both foundTurned distinct
      refine ⟨.list, .names, _, _, distinct, first, last, ?_, idle⟩
      rw [Timeline.stepLoop, found]
      simp only [order]
      rfl

/-! ### Any task, and time -/

lemma stepFetch (h : Sound S t) (kind : RoundKind) (round : Nat) :
    Sound S (t.stepFetch S kind round) := by
  obtain ⟨same, -⟩ | ⟨f, isThere, rfl, rfl, turn⟩ := fetchTurn S t kind round
  · rw [same]
    exact h
  · exact h.of_reaches (stepFetch_reaches S t f.kind f.round)
      (h.fit.fetchTurn (turn.taskState fun _ => h.ofKind isThere)) (.of_eq turn.loopState)

lemma stepCaller (h : Sound S t) (id : Nat) : Sound S (t.stepCaller id) := by
  obtain ⟨same, -⟩ | ⟨c, -, rfl, turn⟩ := taskState_stepCaller h.isAhead id
  · rw [same]
    exact h
  · exact h.of_reaches (stepCaller_reaches S t c.id) (h.fit.callerTurn turn)
      (.of_eq (t.loopState_stepCaller c.id))

lemma stepLoop (h : Sound S t) (id : Nat) : Sound S (t.stepLoop S id) := by
  obtain ⟨-, same⟩ | ⟨_, _, _, _, -, first, last, stepped, -⟩ := h.stepLoop_spins id
  · rw [same]
    exact h
  · rw [stepped]
    exact (((h.turned id).spins first).spins last).swept id

/-- Whatever task goes on, the timeline is sound as before. -/
theorem step (h : Sound S t) (task : TaskId) : Sound S (t.step S task) := by
  cases task with
  | fetch kind round => exact h.stepFetch kind round
  | caller id => exact h.stepCaller id
  | loop id => exact h.stepLoop id

lemma popped (h : Sound S t) (rest : List TaskId) : Sound S { t with ready := rest } :=
  h.of_work rfl (.refl _) rfl rfl

lemma next (h : Sound S t) : Sound S (t.next S) := by
  unfold Timeline.next
  split
  · exact h
  next task rest _ => exact (h.popped rest).step task

/-! ### The clock stands still while tasks go on -/

lemma now_spins (h : Sound S t) {id : Nat} (spins : Spins S id which t t') : t'.now = t.now := by
  induction spins with
  | refl => rfl
  | tail before stepped ih =>
    obtain ⟨-, l, -, -, s', goes⟩ := (h.spins before).stepSchedule stepped
    have now := goes.keeps.now
    exact now.trans ih

lemma now_step (h : Sound S t) (task : TaskId) : (t.step S task).now = t.now := by
  cases task with
  | fetch kind round =>
    obtain ⟨same, -⟩ | ⟨f, isThere, rfl, rfl, turn⟩ := fetchTurn S t kind round
    · exact congrArg Timeline.now same
    · exact (turn.taskState fun _ => h.ofKind isThere).same.1
  | caller id =>
    obtain ⟨same, -⟩ | ⟨c, -, rfl, turn⟩ := taskState_stepCaller h.isAhead id
    · exact congrArg Timeline.now same
    · exact turn.same.1
  | loop id =>
    obtain ⟨-, same⟩ | ⟨_, _, u, v, -, first, last, stepped, -⟩ := h.stepLoop_spins id
    · exact congrArg Timeline.now same
    · have turned := h.turned id
      calc (t.stepLoop S id).now = (v.swept id).now := congrArg Timeline.now stepped
        _ = v.now := rfl
        _ = u.now := (turned.spins first).now_spins last
        _ = t.now := turned.now_spins first

lemma now_next (h : Sound S t) : (t.next S).now = t.now := by
  unfold Timeline.next
  split
  · rfl
  next task rest _ => exact (h.popped rest).now_step task

lemma now_settle (h : Sound S t) : (t.settle S).now = t.now :=
  (settle_induction (P := fun u => Sound S u ∧ u.now = t.now)
    (fun _ kept => ⟨kept.1.next, kept.1.now_next.trans kept.2⟩) ⟨h, rfl⟩).2

lemma moveTo (h : Sound S t) (time : Nat) : Sound S (t.moveTo time) := by
  have loopState := t.loopState_moveTo time
  exact h.of_work (t.work_moveTo time) (loops_moveTo t time ▸ .refl _)
    (congrArg LoopState.poller loopState)
    (congrArg LoopState.loopCount loopState)

end Sound

end Timeline

end MetricWatch
