import MetricWatch.Proofs.Polling.Alert
import MetricWatch.Proofs.Polling.Lifecycle

/-!
# The course of things

Time passes beat by beat: the task that became ready first goes on, or the clock moves on where no
task is ready and no timer is due before. Things take their course when in between somebody does
something from outside. Nobody is forgotten in the course of things, and whoever waits for something
lets time pass in this way. The main statements are `Course.attentive` and
`Attentive.waitUntil_lapse`.
-/

namespace MetricWatch.Timeline

variable {σ : Type} {S : Source σ} {t t' : Timeline σ} {l : Poller.Loop} {which : Poller.Which}

/-! ### Beats -/

/-- What can be done to a timeline from outside, at once. A stop of the poller only begins here; to
wait for its end is to let the timeline take its course. -/
inductive Act
  | call (kind : RoundKind)
  | see (kind : RoundKind) (round : Nat)
  | spawn (kind : RoundKind)
  | abandon (id : Nat)
  | chore (c : Chore)
  | setGate (kind : RoundKind) (isOpen : Bool)
  | releaseStore
  | startPoller
  | haltPoller
  | releasePoller
  | note (n : Note)

/-- The timeline after something was done from outside. -/
def act (t : Timeline σ) : Act → Timeline σ
  | .call kind => (t.call kind).2
  | .see kind round => (t.see kind round).2
  | .spawn kind => (t.spawn kind).2
  | .abandon id => t.abandon id
  | .chore c => { t with store := t.store.perform c }
  | .setGate kind isOpen => t.setGate kind isOpen
  | .releaseStore => t.releaseStore
  | .startPoller => t.startPoller.2
  | .haltPoller => t.haltPoller
  | .releasePoller => t.releasePoller
  | .note n => t.note n

/-- One beat: the task that became ready first goes on, or the clock moves on where no task is ready,
and no further than to the next timer. -/
inductive Beat (S : Source σ) : Timeline σ → Timeline σ → Prop
  | go (t : Timeline σ) : Beat S t (t.next S)
  | wait {t : Timeline σ} (rest : t.ready = []) {time : Nat}
      (soon : ∀ timer ∈ t.timers, time ≤ timer.due) : Beat S t (t.moveTo time)

/-- Beats one after the other, while nothing is done from outside. -/
def Lapse (S : Source σ) : Timeline σ → Timeline σ → Prop := Relation.ReflTransGen (Beat S)

/-- Beats one after the other, with anything done from outside between them. -/
inductive Course (S : Source σ) (t : Timeline σ) : Timeline σ → Prop
  | refl : Course S t t
  | beat {t' t'' : Timeline σ} (course : Course S t t') (beat : Beat S t' t'') : Course S t t''
  | act {t' : Timeline σ} (course : Course S t t') (a : Act) : Course S t (t'.act a)

lemma Course.lapse {t'' : Timeline σ} (course : Course S t t') (lapse : Lapse S t' t'') :
    Course S t t'' := by
  induction lapse with
  | refl => exact course
  | tail _ beat ih => exact ih.beat beat

/-! ### What is done to the tasks from outside -/

/-- The tasks of the fetches of a kind whose answers are held back. -/
def heldBack (t : Timeline σ) (kind : RoundKind) : List TaskId :=
  (t.fetches.filter fun f => f.kind = kind && match f.stage with
    | .held _ _ => true
    | _ => false).map fun f => .fetch f.kind f.round

lemma taskState_setGate (t : Timeline σ) (kind : RoundKind) (isOpen : Bool) :
    (t.setGate kind isOpen).taskState = { t.taskState with
      isOpen := fun k => if k = kind then isOpen else t.isOpen k
      ready := if isOpen then (heldBack t kind).foldl woken t.ready else t.ready } := by
  have moved : ({ t with listOpen := isOpen } : Timeline σ).isOpen
      = fun k => if k = .list then isOpen else t.isOpen k := by
    funext k
    cases k <;> rfl
  have moved' : ({ t with namesOpen := isOpen } : Timeline σ).isOpen
      = fun k => if k = .names then isOpen else t.isOpen k := by
    funext k
    cases k <;> rfl
  cases kind with
  | list =>
    rw [← moved]
    cases isOpen with
    | false => rfl
    | true => exact taskState_wakeAll _ _
  | names =>
    rw [← moved']
    cases isOpen with
    | false => rfl
    | true => exact taskState_wakeAll _ _

lemma loopState_setGate (t : Timeline σ) (kind : RoundKind) (isOpen : Bool) :
    (t.setGate kind isOpen).loopState = t.loopState := by
  cases kind <;> cases isOpen <;> simp only [setGate, wakeAll_eq] <;> rfl

lemma taskState_perform (t : Timeline σ) (c : Chore) :
    ({ t with store := t.store.perform c } : Timeline σ).taskState = t.taskState := by
  simp only [Timeline.taskState, TaskState.mk.injEq, true_and, and_true]
  refine ⟨?_, ?_⟩
  · funext kind
    cases kind <;> rfl
  · funext kind round
    exact Store.result?_perform ..

/-- The loop that a poller begins. -/
def newLoop (t : Timeline σ) (p : Poller) : Poller.Loop where
  id := t.loopCount
  cancelled := false
  namesFirst := false
  list := .start p.timing.listEvery t.now
  names := .start p.timing.namesEvery t.now

lemma taskState_beginLoop (t : Timeline σ) (p : Poller) :
    (t.beginLoop p).taskState = { t.taskState with
    loops := t.loops ++ [newLoop t p]
    ready := woken t.ready (.loop t.loopCount) } := by
  unfold beginLoop
  rw [taskState_wake]
  rfl

lemma mem_loops_beginLoop {p : Poller} (mem : l ∈ (t.beginLoop p).loops) :
    l ∈ t.loops ∨ l = newLoop t p := by
  have loops : (t.beginLoop p).loops = t.loops ++ [newLoop t p] :=
    congrArg TaskState.loops (taskState_beginLoop t p)
  rw [loops] at mem
  exact (List.mem_append.mp mem).imp_right List.mem_singleton.mp

namespace TaskState

variable {g : TaskState} {id : Nat}

/-- Cancels a loop and makes it ready. -/
def cancel (g : TaskState) (id : Nat) : TaskState :=
  { g with
    loops := g.loops.map fun l => if l.id = id then { l with cancelled := true } else l
    ready := woken g.ready (.loop id) }

/-- A loop that is cancelled still has its schedules, and the others are left alone. -/
lemma mem_loops_cancel (mem : l ∈ (g.cancel id).loops) :
    ∃ l₀ ∈ g.loops, l.id = l₀.id ∧ (∀ which, l.schedule which = l₀.schedule which) ∧
      (l.cancelled = false → l₀.cancelled = false) ∧ (l₀.id ≠ id → l = l₀) := by
  obtain ⟨l₀, mem₀, rfl⟩ := List.mem_map.mp mem
  refine ⟨l₀, mem₀, ?_⟩
  split
  next own => exact ⟨rfl, fun which => by cases which <;> rfl, by simp, fun other => absurd own other⟩
  next => exact ⟨rfl, fun _ => rfl, fun live => live, fun _ => rfl⟩

lemma Fit.cancel (fit : g.Fit) (id : Nat) : (g.cancel id).Fit := by
  have ids : (g.cancel id).loops.map Poller.Loop.id = g.loops.map Poller.Loop.id := by
    simp only [TaskState.cancel, List.map_map]
    refine List.map_congr_left fun l _ => ?_
    simp only [Function.comp_apply]
    split <;> rfl
  refine ⟨fit.callers, ids ▸ fit.loops, fit.pending, fun l mem which => ?_, fun l mem => ?_⟩
  · obtain ⟨l₀, mem₀, -, schedule, -⟩ := mem_loops_cancel mem
    rw [schedule]
    exact fit.periods l₀ mem₀ which
  · obtain ⟨l₀, mem₀, -, schedule, -⟩ := mem_loops_cancel mem
    have same : l.list = l₀.list := schedule .list
    rw [same]
    exact fit.plain l₀ mem₀

/-- A loop that is cancelled is ready to stop. -/
lemma Watched.cancel (h : g.Watched none) (id : Nat) : (g.cancel id).Watched none := by
  intro task due
  refine .inr (mem_woken.mpr ?_)
  cases due with
  | fetch mem due => exact .inl (h.ready (.fetch mem due))
  | caller mem due => exact .inl (h.ready (.caller mem due))
  | loop mem restless =>
    obtain ⟨l₀, mem₀, ids, -, -, same⟩ := mem_loops_cancel mem
    by_cases own : l₀.id = id
    · exact .inr (by rw [ids, own])
    · obtain rfl := same own
      exact .inl (h.ready (.loop mem₀ restless))

lemma Timed.cancel (h : g.Timed) (id : Nat) : (g.cancel id).Timed := by
  refine ⟨h.sorted, h.later, h.fetches, fun l mem which due alarm => ?_⟩
  obtain ⟨l₀, mem₀, ids, schedule, -⟩ := mem_loops_cancel mem
  rw [schedule] at alarm
  rw [ids]
  exact h.loops l₀ mem₀ which due alarm

end TaskState

lemma taskState_cancelLoop (t : Timeline σ) {p : Poller} {id : Nat}
    (current : p.current = some id) :
    (t.cancelLoop p).taskState = t.taskState.cancel id := by
  rw [Timeline.cancelLoop, current]
  exact taskState_wake _ _

/-- What a start of the poller does: a loop begins, or nothing. -/
inductive Starts (t : Timeline σ) : Timeline σ → Prop
  | not : Starts t t
  | begins {p : Poller} (poller : t.poller = some p) (idle : t.isRunning = false) :
      Starts t ((t.note (.info "Starting metrics poller")).beginLoop p)

lemma starts_startPoller (t : Timeline σ) : t.Starts t.startPoller.2 := by
  cases running : t.isRunning with
  | true =>
    rw [startPoller_of_running running]
    exact .not
  | false =>
    cases poller : t.poller with
    | none =>
      rw [startPoller_of_absent poller]
      exact .not
    | some p =>
      rw [startPoller_of_idle poller running]
      exact .begins poller running

/-- What a stop or a drop of the poller does: the loop that runs is cancelled, or none is. -/
inductive Quits (t : Timeline σ) : Timeline σ → Prop
  | idle (rest : Option Poller) : Quits t { t with poller := rest }
  | cancels (n : Note) (p : Poller) (rest : Option Poller) :
      Quits t { (t.note n).cancelLoop p with poller := rest }

lemma quits_haltPoller (t : Timeline σ) : t.Quits t.haltPoller := by
  unfold haltPoller
  split
  · exact .idle t.poller
  · split
    · exact .cancels ..
    · exact .idle t.poller

lemma quits_releasePoller (t : Timeline σ) : t.Quits t.releasePoller := by
  unfold releasePoller
  split
  · exact .idle t.poller
  · dsimp only
    split
    · exact .cancels ..
    · exact .idle none

lemma loopCount_beginLoop (t : Timeline σ) (p : Poller) :
    (t.beginLoop p).loopCount = t.loopCount + 1 :=
  congrArg LoopState.loopCount (loopState_beginLoop t p)

lemma Starts.loopCount_le (h : t.Starts t') : t.loopCount ≤ t'.loopCount := by
  cases h with
  | not => exact Nat.le_refl _
  | @begins p => exact loopCount_beginLoop (t.note _) p ▸ Nat.le_succ _

lemma Quits.loopCount (h : t.Quits t') : t'.loopCount = t.loopCount := by
  cases h with
  | idle => rfl
  | cancels n p => exact congrArg LoopState.loopCount (loopState_cancelLoop (t.note n) p)

/-- Numbers of loops are not taken back. -/
lemma loopCount_le_act (t : Timeline σ) (a : Act) : t.loopCount ≤ (t.act a).loopCount := by
  cases a with
  | call kind => exact Nat.le_of_eq (congrArg LoopState.loopCount (t.loopState_call kind)).symm
  | see kind round =>
    exact Nat.le_of_eq (congrArg LoopState.loopCount (t.loopState_see kind round)).symm
  | spawn kind =>
    have loopState := loopState_wake
      { t with callers := t.callers ++ [⟨t.callers.length, kind, .begun⟩] }
      (.caller t.callers.length)
    exact Nat.le_of_eq (congrArg LoopState.loopCount loopState).symm
  | setGate kind isOpen =>
    exact Nat.le_of_eq (congrArg LoopState.loopCount (loopState_setGate t kind isOpen)).symm
  | abandon | chore | releaseStore | note => exact Nat.le_refl _
  | startPoller => exact t.starts_startPoller.loopCount_le
  | haltPoller => exact Nat.le_of_eq t.quits_haltPoller.loopCount.symm
  | releasePoller => exact Nat.le_of_eq t.quits_releasePoller.loopCount.symm

/-! ### Nobody is forgotten -/

namespace Attentive

lemma run_reaches (h : Attentive S t) (reaches : Reaches S t t') : ∃ marks, Run S marks t' := by
  obtain ⟨_, run⟩ := h.sound.run
  obtain ⟨_, longer⟩ := run.reaches reaches
  exact ⟨_, longer⟩

/-- What leaves the state of the tasks alone leaves nobody forgotten. -/
lemma of_taskState (h : Attentive S t) (reaches : Reaches S t t')
    (taskState : t'.taskState = t.taskState)
    (loopCount : t'.loopCount = t.loopCount) : Attentive S t' := by
  have loops : t'.loops = t.loops := congrArg TaskState.loops taskState
  refine ⟨⟨h.run_reaches reaches, taskState ▸ h.sound.fit, ?_⟩, taskState ▸ h.watched,
    taskState ▸ h.timed⟩
  rw [loops, loopCount]
  exact h.sound.numbered

lemma call (h : Attentive S t) (kind : RoundKind) : Attentive S (t.call kind).2 := by
  have loopState := t.loopState_call kind
  have loopCount : (t.call kind).2.loopCount = t.loopCount := congrArg LoopState.loopCount loopState
  have reaches := call_reaches S t kind
  rcases taskState_call h.sound.isAhead kind with ⟨-, same⟩ | ⟨round, -, enters⟩
  · exact h.of_taskState reaches same loopCount
  · refine ⟨⟨h.run_reaches reaches, h.sound.fit.enters enters, ?_⟩, h.watched.enters enters,
      h.timed.enters enters⟩
    have loops : (t.call kind).2.loops = t.loops := enters.keeps.2.1
    rw [loops, loopCount]
    exact h.sound.numbered

lemma spawn (h : Attentive S t) (kind : RoundKind) : Attentive S (t.spawn kind).2 := by
  obtain ⟨_, run⟩ := h.sound.run
  have taskState : (t.spawn kind).2.taskState = { t.taskState with
      callers := t.callers ++ [⟨t.callers.length, kind, .begun⟩]
      ready := woken t.ready (.caller t.callers.length) } := by
    simp only [Timeline.spawn, taskState_wake]
    rfl
  have fit : (t.spawn kind).2.taskState.Fit := by
    rw [taskState]
    refine ⟨?_, h.sound.fit.loops, h.sound.fit.pending, h.sound.fit.periods, h.sound.fit.plain⟩
    simp only [List.map_append, List.map_cons, List.map_nil]
    refine List.nodup_append.mpr ⟨h.sound.fit.callers, List.nodup_singleton _, fun a old b new => ?_⟩
    obtain ⟨c, mem, rfl⟩ := List.mem_map.mp old
    rw [List.mem_singleton.mp new]
    exact Nat.ne_of_lt (run.attended.given c mem)
  refine ⟨⟨h.run_reaches (.move (.spawn t kind)), fit, ?_⟩, ?_, ?_⟩
  · intro l mem
    have loops : (t.spawn kind).2.loops = t.loops := congrArg TaskState.loops taskState
    have loopState : (t.spawn kind).2.loopState = t.loopState :=
      loopState_wake { t with callers := _ } _
    rw [show (t.spawn kind).2.loopCount = t.loopCount from congrArg LoopState.loopCount loopState]
    exact h.sound.numbered l (loops ▸ mem)
  · rw [taskState]
    intro task due
    refine .inr (TaskState.mem_woken.mpr ?_)
    cases due with
    | fetch mem due => exact .inl (h.watched.ready (.fetch mem due))
    | caller mem due =>
      rcases List.mem_append.mp mem with old | new
      · exact .inl (h.watched.ready (.caller old due))
      · rw [List.mem_singleton.mp new]
        exact .inr rfl
    | loop mem restless => exact .inl (h.watched.ready (.loop mem restless))
  · rw [taskState]
    exact ⟨h.timed.sorted, h.timed.later, h.timed.fetches, h.timed.loops⟩

lemma abandon (h : Attentive S t) (id : Nat) : Attentive S (t.abandon id) := by
  have ids : (t.abandon id).callers.map Caller.id = t.callers.map Caller.id := by
    simp only [Timeline.abandon, List.map_map]
    refine List.map_congr_left fun c _ => ?_
    simp only [Function.comp_apply]
    split
    · split <;> rfl
    · rfl
  refine ⟨⟨h.run_reaches (.move (.abandon t id)), ?_, h.sound.numbered⟩, ?_, ?_⟩
  · exact ⟨ids ▸ h.sound.fit.callers, h.sound.fit.loops, h.sound.fit.pending,
      h.sound.fit.periods, h.sound.fit.plain⟩
  · intro task due
    refine h.watched task ?_
    cases due with
    | fetch mem due => exact .fetch mem due
    | @caller c' mem due =>
      -- Whoever gave up has nothing to do.
      obtain ⟨c, mem, same⟩ := List.mem_map.mp mem
      have either : c' = c ∨ c'.stage = .aborted := by
        rw [← same]
        split
        · split
          · exact .inl rfl
          · exact .inr rfl
        · exact .inl rfl
      rcases either with rfl | aborted
      · exact .caller mem due
      · unfold TaskState.callerDue at due
        rw [aborted] at due
        exact absurd due not_false
    | loop mem restless => exact .loop mem restless
  · exact ⟨h.timed.sorted, h.timed.later, h.timed.fetches, h.timed.loops⟩

lemma setGate (h : Attentive S t) (kind : RoundKind) (isOpen : Bool) :
    Attentive S (t.setGate kind isOpen) := by
  have taskState := taskState_setGate t kind isOpen
  have loops : (t.setGate kind isOpen).loops = t.loops := congrArg TaskState.loops taskState
  have loopCount : (t.setGate kind isOpen).loopCount = t.loopCount :=
    congrArg LoopState.loopCount (loopState_setGate t kind isOpen)
  refine ⟨⟨h.run_reaches (setGate_reaches S t kind isOpen), ?_, ?_⟩, ?_, ?_⟩
  · rw [taskState]
    exact h.sound.fit.of_sublist rfl (.refl _) rfl rfl
  · rw [loops, loopCount]
    exact h.sound.numbered
  · rw [taskState]
    have kept {task : TaskId} (before : t.taskState.Due task) :
        task ∈ if isOpen then (heldBack t kind).foldl woken t.ready else t.ready := by
      have ready : task ∈ t.ready := h.watched.ready before
      split
      · exact TaskState.mem_foldl_woken.mpr (.inl ready)
      · exact ready
    intro task due
    refine .inr ?_
    cases due with
    | @fetch f mem due =>
      cases stage : f.stage with
      | begun items => exact kept (.fetch mem (by simp [TaskState.fetchDue, stage]))
      | waiting gathered until_ =>
        refine kept (.fetch mem ?_)
        unfold TaskState.fetchDue at due ⊢
        rwa [stage] at due ⊢
      | held gathered delay =>
        -- The answers were free to arrive before, or they are held back until now.
        unfold TaskState.fetchDue at due
        rw [stage] at due
        have due : (if f.kind = kind then isOpen else t.isOpen f.kind) = true := due
        split at due
        next own =>
          dsimp only
          rw [if_pos due]
          refine TaskState.mem_foldl_woken.mpr (.inr (List.mem_map.mpr ⟨f, ?_, rfl⟩))
          exact List.mem_filter.mpr ⟨mem, by simp [own, stage]⟩
        next =>
          refine kept (.fetch mem ?_)
          unfold TaskState.fetchDue
          rw [stage]
          exact due
    | caller mem due => exact kept (.caller mem due)
    | loop mem restless => exact kept (.loop mem restless)
  · rw [taskState]
    exact ⟨h.timed.sorted, h.timed.later, h.timed.fetches, h.timed.loops⟩

/-! ### The poller -/

lemma beginLoop (h : Attentive S t) (p : Poller) : Attentive S (t.beginLoop p) := by
  have taskState := taskState_beginLoop t p
  have fit : (t.beginLoop p).taskState.Fit := by
    refine ⟨?_, ?_, ?_, fun l mem which => ?_, fun l mem => ?_⟩
    · rw [taskState]
      exact h.sound.fit.callers
    · rw [taskState]
      simp only [List.map_append, List.map_cons, List.map_nil]
      refine List.nodup_append.mpr ⟨h.sound.fit.loops, List.nodup_singleton _, ?_⟩
      intro a old b new
      obtain ⟨l, mem, rfl⟩ := List.mem_map.mp old
      rw [List.mem_singleton.mp new]
      exact Nat.ne_of_lt (h.sound.numbered l mem)
    · rw [taskState]
      exact h.sound.fit.pending
    · rcases mem_loops_beginLoop mem with old | rfl
      · exact h.sound.fit.periods l old which
      · cases which <;> exact Nat.le_max_right _ _
    · rcases mem_loops_beginLoop mem with old | rfl
      · exact h.sound.fit.plain l old
      · exact nofun
  have run : ∃ marks, Run S marks (t.beginLoop p) := h.run_reaches (.aside (work_wake _ _))
  refine ⟨⟨run, fit, fun l mem => ?_⟩, fun task due => ?_, ?_⟩
  · rw [loopCount_beginLoop]
    rcases mem_loops_beginLoop mem with old | rfl
    · exact Nat.lt_succ_of_lt (h.sound.numbered l old)
    · exact Nat.lt_succ_self _
  · rw [taskState] at due ⊢
    refine .inr (TaskState.mem_woken.mpr ?_)
    cases due with
    | fetch mem due => exact .inl (h.watched.ready (.fetch mem due))
    | caller mem due => exact .inl (h.watched.ready (.caller mem due))
    | loop mem restless =>
      rcases List.mem_append.mp mem with old | new
      · exact .inl (h.watched.ready (.loop old restless))
      · rw [List.mem_singleton.mp new]
        exact .inr rfl
  · rw [taskState]
    refine ⟨h.timed.sorted, h.timed.later, h.timed.fetches, fun l mem which due alarm => ?_⟩
    rcases List.mem_append.mp mem with old | new
    · exact h.timed.loops l old which due alarm
    · rw [List.mem_singleton.mp new] at alarm
      cases which <;> cases alarm

lemma note (h : Attentive S t) (n : Note) : Attentive S (t.note n) :=
  h.of_taskState (.aside rfl) rfl rfl

lemma starts (h : Attentive S t) (starts : t.Starts t') : Attentive S t' := by
  cases starts with
  | not => exact h
  | begins => exact (h.note _).beginLoop _

lemma cancelLoop (h : Attentive S t) (p : Poller) (rest : Option Poller) :
    Attentive S { t.cancelLoop p with poller := rest } := by
  have reaches : Reaches S t { t.cancelLoop p with poller := rest } := .aside (work_cancelLoop t p)
  cases current : p.current with
  | none =>
    have same : t.cancelLoop p = t := by rw [Timeline.cancelLoop, current]
    rw [same] at reaches ⊢
    exact h.of_taskState reaches rfl rfl
  | some id =>
    have taskState : ({ t.cancelLoop p with poller := rest } : Timeline σ).taskState
      = t.taskState.cancel id :=
      taskState_cancelLoop t current
    have loopCount : (t.cancelLoop p).loopCount = t.loopCount :=
      congrArg LoopState.loopCount (loopState_cancelLoop t p)
    refine ⟨⟨h.run_reaches reaches, taskState ▸ h.sound.fit.cancel id, fun l mem => ?_⟩,
      taskState ▸ h.watched.cancel id, taskState ▸ h.timed.cancel id⟩
    have mem : l ∈ (t.taskState.cancel id).loops := taskState ▸ mem
    obtain ⟨l₀, mem₀, ids, -⟩ := TaskState.mem_loops_cancel mem
    rw [ids]
    exact Nat.lt_of_lt_of_eq (h.sound.numbered l₀ mem₀) loopCount.symm

lemma quits (h : Attentive S t) (quits : t.Quits t') : Attentive S t' := by
  cases quits with
  | idle rest => exact h.of_taskState (.aside rfl) rfl rfl
  | cancels n p rest => exact (h.note n).cancelLoop p rest

/-- Whatever is done from outside, nobody is forgotten. -/
theorem act (h : Attentive S t) (a : Act) : Attentive S (t.act a) := by
  cases a with
  | call kind => exact h.call kind
  | see kind round =>
    exact h.of_taskState (.aside (work_see t kind round)) (taskState_see t kind round)
      (congrArg LoopState.loopCount (loopState_see t kind round))
  | spawn kind => exact h.spawn kind
  | abandon id => exact h.abandon id
  | chore c => exact h.of_taskState (.move (.chore t c)) (taskState_perform t c) rfl
  | setGate kind isOpen => exact h.setGate kind isOpen
  | releaseStore => exact h.of_taskState (releaseStore_reaches S t) rfl rfl
  | startPoller => exact h.starts t.starts_startPoller
  | haltPoller => exact h.quits t.quits_haltPoller
  | releasePoller => exact h.quits t.quits_releasePoller
  | note n => exact h.note n

lemma beat (h : Attentive S t) (beat : Beat S t t') : Attentive S t' := by
  cases beat with
  | go => exact h.next
  | wait => exact h.moveTo _

lemma lapse (h : Attentive S t) (lapse : Lapse S t t') : Attentive S t' := by
  induction lapse with
  | refl => exact h
  | tail _ beat ih => exact ih.beat beat

/-- Where nothing runs yet, nobody can be forgotten. -/
lemma fresh (fresh : t.IsFresh) (timing : Poller.Timing) (refreshes : Bool) :
    Attentive S (t.withPoller timing refreshes) := by
  have run : ∃ marks, Run S marks (t.withPoller timing refreshes) :=
    ⟨_, t, fresh, .single (.aside rfl)⟩
  obtain ⟨session, directory, namesNamespace, capacity, source, rfl⟩ := fresh
  have sound : Sound S _ := ⟨run, ⟨.nil, .nil, List.forall_mem_nil _, List.forall_mem_nil _,
    List.forall_mem_nil _⟩, List.forall_mem_nil _⟩
  refine ⟨sound, fun task due => ?_, .nil, List.forall_mem_nil _, List.forall_mem_nil _,
    List.forall_mem_nil _⟩
  cases due with
  | fetch mem | caller mem | loop mem => cases mem

end Attentive

/-- Nobody is forgotten in the course of things. -/
theorem Course.attentive (course : Course S t t') (h : Attentive S t) : Attentive S t' := by
  induction course with
  | refl => exact h
  | beat _ beat ih => exact ih.beat beat
  | act _ a ih => exact ih.act a

/-! ### What takes its time -/

namespace Attentive

lemma settle_lapse (t : Timeline σ) : Lapse S t (t.settle S) :=
  settle_induction (P := Lapse S t) (fun u before => before.tail (.go u)) .refl

/-- The timers of a timeline go off in order, and later than now. -/
lemma first_due (h : Attentive S t) {timer : Timer} {rest : List Timer}
    (timers : t.timers = timer :: rest) :
    t.now < timer.due ∧ ∀ other ∈ t.timers, timer.due ≤ other.due := by
  have sorted : t.timers.Pairwise fun a b => a.due ≤ b.due := h.timed.sorted
  have later : ∀ other ∈ t.timers, t.now < other.due := h.timed.later
  rw [timers] at sorted later ⊢
  refine ⟨later _ List.mem_cons_self, fun other mem => ?_⟩
  rcases List.mem_cons.mp mem with rfl | late
  · exact Nat.le_refl _
  · exact (List.pairwise_cons.mp sorted).1 other late

/-- The clock moves on only where no task is ready, and not past any timer. -/
lemma waitWithin_lapse (h : Attentive S t) (holds : Timeline σ → Bool) (limit moves : Nat) :
    Lapse S t (waitWithin S holds limit moves t).2 := by
  induction moves generalizing t with
  | zero => exact .refl
  | succ moves ih =>
    have settling := settle_lapse (S := S) t
    have settled := h.settle
    have rest := h.sound.ready_settle
    have waiting {time : Nat} (soon : ∀ timer ∈ (t.settle S).timers, time ≤ timer.due) :
        Lapse S t ((t.settle S).moveTo time) := settling.tail (.wait rest soon)
    unfold waitWithin
    dsimp only
    split
    · exact settling
    · split
      next timer rest timers =>
        have first := (settled.first_due timers).2
        split
        · exact (waiting first).trans (ih (settled.moveTo _))
        next late =>
          refine waiting fun other mem => ?_
          exact Nat.le_trans (Nat.le_of_lt (Nat.lt_of_not_le late)) (first other mem)
      next timers =>
        refine waiting ?_
        rw [timers]
        exact List.forall_mem_nil _

/-- Whoever waits for something lets time pass. -/
theorem waitUntil_lapse (h : Attentive S t) (holds : Timeline σ → Bool) (patience : Nat) :
    Lapse S t (t.waitUntil S holds patience).2 := h.waitWithin_lapse holds _ _

lemma advance_lapse (h : Attentive S t) (millis : Nat) : Lapse S t (t.advance S millis) :=
  (h.waitUntil_lapse _ millis).trans (settle_lapse _)

/-- Where nobody waits for anything, the clock comes to the limit. -/
lemma now_waitWithin (h : Attentive S t) {limit moves : Nat} (early : t.now ≤ limit)
    (enough : limit - t.now < moves) :
    (waitWithin S (fun _ => false) limit moves t).2.now = limit := by
  induction moves generalizing t with
  | zero => exact absurd enough (Nat.not_lt_zero _)
  | succ moves ih =>
    have settled := h.settle
    have now := h.sound.now_settle
    have moved (time : Nat) : ((t.settle S).moveTo time).now = max t.now time :=
      (congrArg TaskState.now (taskState_moveTo _ time)).trans (congrArg (max · time) now)
    have atLimit : ((t.settle S).moveTo limit).now = limit :=
      (moved limit).trans (Nat.max_eq_right early)
    unfold waitWithin
    dsimp only
    rw [if_neg Bool.false_ne_true]
    split
    next timer rest timers =>
      have later := (settled.first_due timers).1
      rw [now] at later
      have arrived := (moved timer.due).trans (Nat.max_eq_right (Nat.le_of_lt later))
      split
      next due =>
        refine ih (settled.moveTo _) ?_ (by omega)
        rw [arrived]
        exact due
      next => exact atLimit
    next => exact atLimit

/-- So much later, nothing is left that could go on. -/
lemma now_advance (h : Attentive S t) (millis : Nat) :
    (t.advance S millis).now = t.now + millis ∧ (t.advance S millis).ready = [] := by
  have waited := h.lapse (h.waitUntil_lapse (fun _ => false) millis)
  refine ⟨waited.sound.now_settle.trans ?_, waited.sound.ready_settle⟩
  exact h.now_waitWithin (Nat.le_add_right _ _) (by omega)

/-- A stop of the poller begins at once; what is left of it is that time passes until its loop is gone
or patience is lost. -/
theorem stopPoller_course (h : Attentive S t) (exit : Poller.Exit) :
    Course S t.haltPoller (t.stopPoller S exit).2 := by
  cases running : t.isRunning with
  | false =>
    rw [stopPoller_of_idle S exit running, haltPoller_of_idle running]
    exact .refl
  | true =>
    cases poller : t.poller with
    | none => simp [isRunning, poller] at running
    | some p =>
      have waiting := (Course.refl (S := S)).lapse ((h.quits t.quits_haltPoller).waitUntil_lapse
        (fun t => p.handle.all fun id => (t.loop? id).isNone) p.timing.stopWithin)
      rw [haltPoller_of_running poller running] at waiting ⊢
      unfold stopPoller
      rw [poller]
      simp only [running, if_true]
      split
      · exact .refl
      · split
        · cases exit with
          | finished => exact waiting.act (.note _)
          | broke => exact waiting
        · exact waiting

end Attentive

end MetricWatch.Timeline
