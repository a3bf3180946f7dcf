import MetricWatch.Proofs.Polling.DriftInduction
import Mathlib.Data.List.Pairwise

/-!
# The queue

Tasks that become ready queue up behind those that are ready before them. When a loop begins, all
loops that have not ended are cancelled and ready to stop, so each of them is gone before the new
loop goes on for the first time. Therefore, of all loops that have not ended only one is ever out on
an errand. The main statements are `Drift.queued` and `TaskState.Lined.alone`.
-/

namespace MetricWatch.Timeline

variable {σ : Type} {S : Source σ} {t t' : Timeline σ} {l : Poller.Loop} {which : Poller.Which}

/-! ### Before and behind -/

/-- Whether some front of a queue has a task and not another one. -/
def Before (ready : List TaskId) (task other : TaskId) : Prop :=
  ∃ front, front <+: ready ∧ task ∈ front ∧ other ∉ front

namespace Before

variable {ready ready' rest : List TaskId} {task other head : TaskId}

lemma longer (h : Before ready task other) (more : ready <+: ready') :
    Before ready' task other := by
  obtain ⟨front, isPrefix, mem, absent⟩ := h
  exact ⟨front, isPrefix.trans more, mem, absent⟩

lemma of_mem (mem : task ∈ ready) (absent : other ∉ ready) : Before ready task other :=
  ⟨ready, List.prefix_refl ready, mem, absent⟩

/-- When the first task goes on, it is not the later one of the two, and unless it is the earlier
one they are in order as before. -/
lemma popped (h : Before (head :: rest) task other) :
    other ≠ head ∧ (task = head ∨ Before rest task other) := by
  obtain ⟨front, isPrefix, mem, absent⟩ := h
  cases front with
  | nil => cases mem
  | cons first front =>
    obtain ⟨rfl, shorter⟩ := List.cons_prefix_cons.mp isPrefix
    refine ⟨fun same => absent (same ▸ List.mem_cons_self), ?_⟩
    exact (List.mem_cons.mp mem).imp_right fun mem =>
      ⟨front, shorter, mem, fun there => absent (List.mem_cons_of_mem _ there)⟩

end Before

/-- A loop that was cancelled has ended when neither of its schedules has anything to do. -/
lemma isFinished_of_idle {now : Nat} {result? : RoundKind → Nat → Option CallResult}
    (cancelled : l.cancelled = true) (idle : ∀ which, Idle now result? l which) :
    l.isFinished = true := by
  have stopped (which : Poller.Which) : (l.schedule which).isStopped = true := by
    cases idle which with
    | stopped isStopped => exact isStopped
    | resting live | refreshing live | inRound live =>
      rw [cancelled] at live
      cases live
  rw [Poller.Loop.isFinished, Bool.and_eq_true]
  exact ⟨stopped .list, stopped .names⟩

/-- A loop that was cancelled is ready to stop. -/
lemma Attentive.ready_of_cancelled (h : Attentive S t) (isThere : l ∈ t.loops)
    (cancelled : l.cancelled = true) : .loop l.id ∈ t.ready := by
  refine h.watched.ready (.loop isThere fun ease => ?_)
  have ended := isFinished_of_idle cancelled ease.2
  rw [ease.1] at ended
  cases ended

namespace TaskState

variable {g g' g'' : TaskState} {id : Nat} {task : TaskId} {but : Option TaskId}

/-! ### Queueing up -/

lemma prefix_woken (ready : List TaskId) (task : TaskId) : ready <+: woken ready task := by
  unfold woken
  split
  · exact List.prefix_refl ready
  · exact List.prefix_append ready [task]

lemma prefix_foldl_woken (tasks ready : List TaskId) : ready <+: tasks.foldl woken ready := by
  induction tasks generalizing ready with
  | nil => exact List.prefix_refl ready
  | cons task tasks ih => exact (prefix_woken ready task).trans (ih _)

/-- Whether the loop of a number is there, is ready or has set a timer. -/
inductive Knows (g : TaskState) (id : Nat) : Prop
  | loop (isThere : id ∈ g.loops.map Poller.Loop.id)
  | ready (isReady : .loop id ∈ g.ready)
  | timer {due : Nat} (isSet : ⟨due, .loop id⟩ ∈ g.timers)

/-- Whether one state of the tasks comes out of another without any task losing its place or any loop
that was not known before. -/
structure Queues (g g' : TaskState) : Prop where
  ready : g.ready <+: g'.ready
  knows : ∀ id, g'.Knows id → g.Knows id

namespace Queues

lemma refl (g : TaskState) : Queues g g := ⟨List.prefix_refl _, fun _ known => known⟩

lemma trans (first : Queues g g') (last : Queues g' g'') : Queues g g'' :=
  ⟨first.ready.trans last.ready, fun id known => first.knows id (last.knows id known)⟩

/-- Only the loops, the tasks that are ready and the timers matter. -/
lemma of_eq (loops : g'.loops.map Poller.Loop.id = g.loops.map Poller.Loop.id)
    (ready : g'.ready = g.ready) (timers : g'.timers = g.timers) : Queues g g' := by
  refine ⟨ready ▸ List.prefix_refl _, fun id known => ?_⟩
  cases known with
  | loop isThere => exact .loop (loops ▸ isThere)
  | ready isReady => exact .ready (ready ▸ isReady)
  | timer isSet => exact .timer (timers ▸ isSet)

lemma wakeAll (g : TaskState) (tasks : List TaskId) (known : ∀ id, .loop id ∈ tasks → g.Knows id) :
    Queues g (g.wakeAll tasks) := by
  refine ⟨prefix_foldl_woken tasks g.ready, fun id after => ?_⟩
  cases after with
  | loop isThere => exact .loop isThere
  | ready isReady =>
    rcases mem_foldl_woken.mp isReady with old | new
    · exact .ready old
    · exact known id new
  | timer isSet => exact .timer isSet

lemma wake (g : TaskState) (known : ∀ id, task = .loop id → g.Knows id) : Queues g (g.wake task) :=
  wakeAll g [task] fun id mem => known id (List.mem_singleton.mp mem).symm

lemma setSchedule (g : TaskState) (id : Nat) (which : Poller.Which) (s : Poller.Schedule) :
    Queues g (g.setSchedule id which s) := of_eq (ids_setSchedule g id which s) rfl rfl

lemma arm (g : TaskState) (due : Nat) (known : ∀ id, task = .loop id → g.Knows id) :
    Queues g (g.arm due task) := by
  refine ⟨List.prefix_refl _, fun id after => ?_⟩
  cases after with
  | loop isThere => exact .loop isThere
  | ready isReady => exact .ready isReady
  | timer isSet =>
    rcases mem_insertTimer.mp isSet with new | old
    · exact known id (Timer.mk.inj new).2.symm
    · exact .timer old

end Queues

lemma Enters.queues {kind : RoundKind} {round : Nat} (h : g.Enters kind round g') :
    Queues g g' := by
  cases h with
  | joined => exact .refl g
  | started _ items =>
    refine ⟨prefix_woken g.ready _, fun id known => ?_⟩
    cases known with
    | loop isThere => exact .loop isThere
    | ready isReady =>
      rcases mem_woken.mp isReady with old | new
      · exact .ready old
      · cases new
    | timer isSet => exact .timer isSet

lemma Begins.queues {s : Poller.Schedule} (h : g.Begins id which s g') : Queues g g' := by
  cases h with
  | declined => exact .setSchedule ..
  | admitted enters => exact enters.queues.trans (.setSchedule ..)

lemma Turn.queues (isThere : l ∈ g.loops) (h : g.Turn l which g') : Queues g g' := by
  have known : l.id ∈ g.loops.map Poller.Loop.id := List.mem_map_of_mem isThere
  have armed (s : Poller.Schedule) (due : Nat) :
      Queues g ((g.setSchedule l.id which s).arm due (.loop l.id)) := by
    refine (Queues.setSchedule g l.id which s).trans (.arm _ due fun id same => .loop ?_)
    rw [ids_setSchedule, ← TaskId.loop.inj same]
    exact known
  cases h with
  | stops => exact .setSchedule ..
  | ticks _ _ _ begins | takesNodes _ _ _ begins => exact begins.queues
  | refreshes | arms => exact armed ..
  | takesRound _ _ _ again =>
    cases again with
    | true =>
      refine (Queues.wake g fun id same => .loop ?_).trans (.setSchedule ..)
      exact TaskId.loop.inj same ▸ known
    | false => exact .setSchedule ..

lemma FetchTurn.queues {f : Fetch} (h : g.FetchTurn f g') : Queues g g' := by
  cases h with
  | stays => exact .refl g
  | holds closed gathered delay => exact .of_eq rfl rfl rfl
  | @waits until_ later gathered =>
    have staged : Queues g (g.setStage f.kind f.round (.waiting gathered until_)) :=
      .of_eq rfl rfl rfl
    exact staged.trans (.arm _ _ nofun)
  | ends result =>
    refine (Queues.wakeAll g (g.awaiting f.kind f.round) fun id mem => .loop ?_).trans
      (.of_eq rfl rfl rfl)
    rcases List.mem_append.mp mem with caller | loop
    · obtain ⟨_, -, same⟩ := List.mem_map.mp caller
      cases same
    · obtain ⟨l, mem, same⟩ := List.mem_map.mp loop
      exact TaskId.loop.inj same ▸ List.mem_map_of_mem (List.mem_filter.mp mem).1

lemma CallerTurn.queues {c : Caller} (h : g.CallerTurn c g') : Queues g g' := by
  cases h with
  | stays => exact .refl g
  | served | declined => exact .of_eq rfl rfl rfl
  | admitted _ enters => exact enters.queues.trans (.of_eq rfl rfl rfl)

lemma queues_moveTo (g : TaskState) (time : Nat) : Queues g (g.moveTo time) := by
  refine ⟨prefix_foldl_woken _ g.ready, fun id known => ?_⟩
  cases known with
  | loop isThere => exact .loop isThere
  | ready isReady =>
    rcases mem_foldl_woken.mp isReady with old | off
    · exact .ready old
    · obtain ⟨timer, mem, same⟩ := List.mem_map.mp off
      have isTimer : timer = ⟨timer.due, .loop id⟩ := by rw [← same]
      exact .timer (isTimer ▸ (List.takeWhile_sublist _).mem mem)
  | timer isSet => exact .timer (List.mem_of_mem_drop isSet)

/-! ### Loops in line -/

/-- Whether a loop is in line before another one: it was begun before and has been cancelled, the
other one has no errand, and it is ready before the other one, or it is the task that is going
on. -/
structure InLine (ready : List TaskId) (but : Option TaskId) (l l' : Poller.Loop) : Prop where
  less : l.id < l'.id
  cancelled : l.cancelled = true
  rests : ∀ which, (l'.schedule which).stage.errand? = none
  before : but = some (.loop l.id) ∨ Before ready (.loop l.id) (.loop l'.id)
  later : but ≠ some (.loop l'.id)

/-- Whether the loops are in line, while a task may be going on. -/
def Lined (g : TaskState) (but : Option TaskId) : Prop := g.loops.Pairwise (InLine g.ready but)

lemma InLine.congr {ready ready' : List TaskId} {l l' k k' : Poller.Loop}
    (h : InLine ready but l l') (more : ready <+: ready') (ids : k.id = l.id ∧ k'.id = l'.id)
    (cancelled : l.cancelled = true → k.cancelled = true)
    (stages : ∀ which, (k'.schedule which).stage = (l'.schedule which).stage) :
    InLine ready' but k k' := by
  obtain ⟨id, id'⟩ := ids
  refine ⟨by rw [id, id']; exact h.less, cancelled h.cancelled, fun which => ?_, ?_, ?_⟩
  · rw [stages]
    exact h.rests which
  · rw [id, id']
    exact h.before.imp_right fun before => before.longer more
  · rw [id']
    exact h.later

namespace Lined

/-- Of two loops one is before the other. -/
lemma either (h : g.Lined but) {l l' : Poller.Loop} (isThere : l ∈ g.loops)
    (isThere' : l' ∈ g.loops) (distinct : l ≠ l') :
    InLine g.ready but l l' ∨ InLine g.ready but l' l := by
  let order (l l' : Poller.Loop) : Prop := InLine g.ready but l l' ∨ InLine g.ready but l' l
  have : Std.Symm order := ⟨fun _ _ => Or.symm⟩
  have ordered : g.loops.Pairwise order := List.Pairwise.imp .inl h
  exact ordered.forall isThere isThere' distinct

/-- Of two loops only one is out on errands. -/
theorem alone (h : g.Lined but) {l l' : Poller.Loop} {which which' : Poller.Which}
    (isThere : l ∈ g.loops) (isThere' : l' ∈ g.loops)
    (out : (l.schedule which).stage.errand? ≠ none)
    (out' : (l'.schedule which').stage.errand? ≠ none) : l = l' := by
  by_contra distinct
  rcases h.either isThere isThere' distinct with inLine | inLine
  · exact out' (inLine.rests which')
  · exact out (inLine.rests which)

/-- Loops may be changed as long as their numbers and stages stay and no cancellation is taken
back. -/
lemma map (h : g.Lined but) {f : Poller.Loop → Poller.Loop} (loops : g'.loops = g.loops.map f)
    (ready : g.ready <+: g'.ready) (ids : ∀ l, (f l).id = l.id)
    (cancelled : ∀ l, l.cancelled = true → (f l).cancelled = true)
    (stages : ∀ l which, ((f l).schedule which).stage = (l.schedule which).stage) :
    g'.Lined but := by
  unfold Lined
  rw [loops, List.pairwise_map]
  exact h.imp fun {l l'} inLine =>
    inLine.congr ready ⟨ids l, ids l'⟩ (cancelled l) (stages l')

lemma mono (h : g.Lined but) (loops : g'.loops = g.loops) (ready : g.ready <+: g'.ready) :
    g'.Lined but :=
  h.map (f := id) (by rw [loops, List.map_id]) ready (fun _ => rfl) (fun _ live => live)
    fun _ _ => rfl

/-- A loop before which there is none may be put at another stage. -/
lemma setSchedule (h : g.Lined but) (fit : g.Fit) (isThere : l ∈ g.loops)
    (first : ∀ l', ¬ InLine g.ready but l' l) {s : Poller.Schedule}
    (loops : g'.loops = (g.setSchedule l.id which s).loops) (ready : g.ready <+: g'.ready) :
    g'.Lined but := by
  unfold Lined
  rw [loops]
  refine List.pairwise_map.mpr (List.Pairwise.imp_of_mem (fun {k k'} _ mem' inLine => ?_) h)
  have other : k'.id ≠ l.id := fun own =>
    first k (List.inj_on_of_nodup_map fit.loops mem' isThere own ▸ inLine)
  rw [if_neg other]
  refine inLine.congr ready ⟨?_, rfl⟩ (fun cancelled => ?_) fun _ => rfl
  · split
    · exact id_withSchedule k which s
    · rfl
  · rw [← cancelled]
    split
    · cases which <;> rfl
    · rfl

/-- The task that became ready first may go on. -/
lemma popped {rest : List TaskId} (h : g.Lined none) (ready : g.ready = task :: rest) :
    ({ g with ready := rest } : TaskState).Lined (some task) := by
  refine List.Pairwise.imp (fun {l l'} inLine => ?_) h
  obtain ⟨less, cancelled, rests, before, -⟩ := inLine
  have before := before.resolve_left nofun
  rw [ready] at before
  obtain ⟨later, own⟩ := before.popped
  exact ⟨less, cancelled, rests, own.imp_left fun same => by rw [same],
    fun same => later (Option.some.inj same).symm⟩

/-- A task that has gone on and is no loop has no place in the line. -/
lemma of_other (h : g.Lined (some task)) (other : ∀ id, task ≠ .loop id) : g.Lined none := by
  refine List.Pairwise.imp (fun {l l'} inLine => ?_) h
  refine ⟨inLine.less, inLine.cancelled, inLine.rests, .inr ?_, nofun⟩
  exact inLine.before.resolve_left fun same => other l.id (Option.some.inj same)

/-- A loop that was cancelled is gone when it has gone on, so the others move up. -/
lemma swept (h : g.Lined (some (.loop id))) (fit : g.Fit) (found : g.loop? id = some l)
    (idle : ∀ which, Idle g.now g.result? l which) (loops : g'.loops = g.loops.filter fun l =>
      ¬ (l.id = id ∧ l.isFinished)) (ready : g'.ready = g.ready) : g'.Lined none := by
  unfold Lined
  rw [loops, ready]
  refine List.Pairwise.imp_of_mem (fun {k k'} mem _ inLine => ?_)
    (List.Pairwise.filter (fun l => decide ¬ (l.id = id ∧ l.isFinished)) h)
  refine ⟨inLine.less, inLine.cancelled, inLine.rests, .inr ?_, nofun⟩
  refine inLine.before.resolve_left fun same => ?_
  have own : k.id = id := (TaskId.loop.inj (Option.some.inj same)).symm
  obtain ⟨mem, stays⟩ := List.mem_filter.mp mem
  obtain ⟨isThere, isOwn⟩ := mem_of_loop? found
  obtain rfl := List.inj_on_of_nodup_map fit.loops mem isThere (own.trans isOwn.symm)
  simp [own, isFinished_of_idle inLine.cancelled idle] at stays

end Lined

end TaskState

open TaskState (Queues Lined InLine)

/-! ### Turns -/

/-- While a loop takes its turns, the loops stay in line. -/
lemma Sound.queues_spins (sound : Sound S t) {id : Nat} (spins : Spins S id which t t')
    (lined : t.taskState.Lined (some (.loop id))) :
    Queues t.taskState t'.taskState ∧ t'.taskState.Lined (some (.loop id)) := by
  induction spins with
  | refl => exact ⟨.refl _, lined⟩
  | tail before stepped ih =>
    have sound := sound.spins before
    obtain ⟨l, found, turn⟩ := turn_of_some stepped
    obtain ⟨isThere, rfl⟩ := TaskState.mem_of_loop? (g := Timeline.taskState _) found
    have turn := turn.taskState sound.isAhead (sound.fit.plain l isThere)
    have queues := turn.queues isThere
    obtain ⟨s', goes⟩ := turn.goes
    exact ⟨ih.1.trans queues, ih.2.setSchedule sound.fit isThere
      (fun l' inLine => inLine.later rfl) goes.loops queues.ready⟩

lemma queues_turned (t : Timeline σ) (id : Nat) : Queues t.taskState (t.turned id).taskState := by
  refine .of_eq ?_ rfl rfl
  change (t.loops.map _).map Poller.Loop.id = t.loops.map Poller.Loop.id
  rw [List.map_map]
  refine List.map_congr_left fun l _ => ?_
  simp only [Function.comp_apply]
  split <;> rfl

lemma Sound.queues_stepLoop (sound : Sound S t) {id : Nat}
    (lined : t.taskState.Lined (some (.loop id))) :
    Queues t.taskState (t.stepLoop S id).taskState ∧ (t.stepLoop S id).taskState.Lined none := by
  obtain ⟨absent, same⟩ | ⟨_, _, u, v, -, first, last, stepped, l, found, idle⟩ :=
    sound.stepLoop_spins id
  · rw [same]
    refine ⟨.refl _, List.Pairwise.imp_of_mem (fun {l l'} mem _ inLine => ?_) lined⟩
    refine ⟨inLine.less, inLine.cancelled, inLine.rests, .inr ?_, nofun⟩
    refine inLine.before.resolve_left fun own => ?_
    have none := List.find?_eq_none.mp absent l mem
    simp [(TaskId.loop.inj (Option.some.inj own)).symm] at none
  · rw [stepped]
    have turned : (t.turned id).taskState.Lined (some (.loop id)) := by
      refine lined.map rfl (List.prefix_refl _) (fun l => ?_) (fun l live => ?_) fun l which => ?_
      · split <;> rfl
      · rw [← live]
        split <;> rfl
      · split
        · cases which <;> rfl
        · rfl
    have sound := sound.turned id
    obtain ⟨queues, lined⟩ := sound.queues_spins first turned
    have sound := sound.spins first
    obtain ⟨queues', lined⟩ := sound.queues_spins last lined
    have swept : Queues v.taskState (v.swept id).taskState := by
      refine ⟨List.prefix_refl _, fun id known => ?_⟩
      cases known with
      | loop isThere => exact .loop ((List.filter_sublist.map Poller.Loop.id).subset isThere)
      | ready isReady => exact .ready isReady
      | timer isSet => exact .timer isSet
    refine ⟨(((queues_turned t id).trans queues).trans queues').trans swept, ?_⟩
    exact lined.swept (sound.spins last).fit found idle rfl rfl

/-- A loop that looks late makes nobody ready but itself and what it fetches. -/
lemma Late.queues (sound : Sound S t) (isThere : l ∈ t.loops) (late : Late t l which t') :
    Queues t.taskState t'.taskState := by
  cases late with
  | nodes _ refreshing =>
    cases which with
    | list => exact absurd refreshing (sound.fit.plain l isThere _ _)
    | names => exact (taskState_takeNodes sound.isAhead l.id (l.schedule .names) _).queues
  | @round round failed bad notes _ inRound judged =>
    obtain ⟨again, same⟩ :=
      taskState_takeRound (t.noteAll notes) l.id which (l.schedule which) round
      (failed || bad)
    rw [same, taskState_noteAll]
    cases again with
    | true =>
      refine (Queues.wake t.taskState fun id own => .loop ?_).trans (.setSchedule ..)
      exact TaskId.loop.inj own ▸ List.mem_map_of_mem isThere
    | false => exact .setSchedule ..

/-! ### Timelines with a queue -/

/-- The loop that a poller would cancel has been begun. -/
lemma Managed.current_lt (managed : Managed t) {p : Poller} (poller : t.poller = some p) {id : Nat}
    (current : p.current = some id) : id < t.loopCount := by
  induction managed generalizing p with
  | new =>
    obtain rfl := Option.some.inj poller
    cases current
  | @start u _ ih =>
    have starts := u.starts_startPoller
    generalize u.startPoller.2 = u' at starts poller
    cases starts with
    | not => exact ih poller current
    | @begins q =>
      let noted := u.note (.info "Starting metrics poller")
      have loopState : (noted.beginLoop q).loopState = u.loopState.begin q :=
        loopState_beginLoop noted q
      have poller' : (noted.beginLoop q).poller = (u.loopState.begin q).poller :=
        congrArg LoopState.poller loopState
      obtain rfl := Option.some.inj (poller'.symm.trans poller)
      rw [loopCount_beginLoop, ← Option.some.inj current]
      exact Nat.lt_succ_self _
  | @stop u _ ih =>
    rw [u.quits_haltPoller.loopCount]
    unfold haltPoller at poller
    split at poller
    next absent =>
      rw [absent] at poller
      cases poller
    next q isPoller =>
      split at poller
      · obtain rfl := Option.some.inj poller
        exact ih isPoller current
      · exact ih poller current
  | @drop u _ ih =>
    unfold releasePoller at poller
    split at poller
    next absent =>
      rw [absent] at poller
      cases poller
    next => cases poller
  | meanwhile _ m ih =>
    have same : _ = _ := m.poller
    have count : _ = _ := m.loopCount
    exact Nat.lt_of_lt_of_eq (ih (same.symm.trans poller) current) count.symm

/-- Whether loops are in line, and no loop is ready or has set a timer that has not begun. -/
structure Queued (t : Timeline σ) : Prop where
  given : ∀ id, t.taskState.Knows id → id < t.loopCount
  lined : t.taskState.Lined none

namespace Queued

/-- Where no loop becomes known, the lines are what matters. -/
lemma of_lined (h : Queued t) (knows : ∀ id, t'.taskState.Knows id → t.taskState.Knows id)
    (lined : t'.taskState.Lined none) (loopCount : t'.loopCount = t.loopCount) : Queued t' := by
  refine ⟨fun id known => ?_, lined⟩
  rw [loopCount]
  exact h.given id (knows id known)

/-- What leaves the loops alone while tasks queue up keeps the queue. -/
lemma of_queues (h : Queued t) (queues : Queues t.taskState t'.taskState)
    (loops : t'.loops = t.loops)
    (loopState : t'.loopState = t.loopState) : Queued t' :=
  h.of_lined queues.knows (h.lined.mono loops queues.ready) (congrArg LoopState.loopCount loopState)

lemma of_taskState (h : Queued t) (taskState : t'.taskState = t.taskState)
    (loopState : t'.loopState = t.loopState) :
    Queued t' := h.of_queues (taskState ▸ .refl _) (congrArg TaskState.loops taskState) loopState

/-- When the task that became ready first has gone on, the loops are in line. -/
lemma next (h : Queued t) (sound : Sound S t) : Queued (t.next S) := by
  suffices both : (∀ id, (t.next S).taskState.Knows id → t.taskState.Knows id) ∧
      (t.next S).taskState.Lined none from
    h.of_lined both.1 both.2 (next_meanwhile S t).loopCount
  cases isReady : t.ready with
  | nil =>
    rw [Timeline.next, isReady]
    exact ⟨fun _ known => known, h.lined⟩
  | cons task rest =>
    rw [Timeline.next, isReady]
    let popped : Timeline σ := { t with ready := rest }
    have sound : Sound S popped := sound.popped rest
    have lined : popped.taskState.Lined (some task) := h.lined.popped isReady
    have before (id : Nat) (known : popped.taskState.Knows id) : t.taskState.Knows id := by
      cases known with
      | loop isThere => exact .loop isThere
      | ready left => exact .ready (isReady ▸ List.mem_cons_of_mem task left : _ ∈ t.ready)
      | timer isSet => exact .timer isSet
    suffices both : Queues popped.taskState (popped.step S task).taskState ∧
        (popped.step S task).taskState.Lined none from
      ⟨fun id known => before id (both.1.knows id known), both.2⟩
    cases task with
    | fetch kind round =>
      have still : popped.taskState.Lined none := by
        refine lined.of_other fun id same => ?_
        cases same
      obtain ⟨same, -⟩ | ⟨f, isThere, rfl, rfl, turn⟩ := fetchTurn S popped kind round
      · rw [Timeline.step, same]
        exact ⟨.refl _, still⟩
      · have turn := turn.taskState fun _ => sound.ofKind isThere
        exact ⟨turn.queues, still.mono turn.same.2 turn.queues.ready⟩
    | caller id =>
      have still : popped.taskState.Lined none := by
        refine lined.of_other fun id same => ?_
        cases same
      obtain ⟨same, -⟩ | ⟨c, -, rfl, turn⟩ := taskState_stepCaller sound.isAhead id
      · rw [Timeline.step, same]
        exact ⟨.refl _, still⟩
      · exact ⟨turn.queues, still.mono turn.same.2 turn.queues.ready⟩
    | loop id => exact sound.queues_stepLoop lined

lemma moveTo (h : Queued t) (time : Nat) : Queued (t.moveTo time) :=
  h.of_queues (taskState_moveTo t time ▸ TaskState.queues_moveTo t.taskState time)
    (loops_moveTo t time)
    (loopState_moveTo t time)

/-- A loop that looks late has an errand, so there is none before it. -/
lemma late (h : Queued t) (sound : Sound S t) (isThere : l ∈ t.loops) (late : Late t l which t') :
    Queued t' := by
  obtain ⟨s', shifts⟩ := late.shifts sound.isAhead (sound.fit.plain l isThere)
  have queues : Queues t.taskState t'.taskState := late.queues sound isThere
  have out : (l.schedule which).stage.errand? ≠ none := by
    cases late with
    | nodes _ refreshing =>
      rw [refreshing]
      exact nofun
    | round _ inRound =>
      rw [inRound]
      exact nofun
  have lined : t'.taskState.Lined none := h.lined.setSchedule sound.fit isThere
    (fun l' inLine => out (inLine.rests which)) shifts.loops queues.ready
  exact h.of_lined queues.knows lined (congrArg LoopState.loopCount late.loopState)

/-! ### What is done from outside -/

lemma call (h : Queued t) (sound : Sound S t) (kind : RoundKind) : Queued (t.call kind).2 := by
  rcases taskState_call sound.isAhead kind with ⟨-, same⟩ | ⟨round, -, enters⟩
  · exact h.of_taskState same (t.loopState_call kind)
  · exact h.of_queues enters.queues enters.keeps.2.1 (t.loopState_call kind)

lemma spawn (h : Queued t) (kind : RoundKind) : Queued (t.spawn kind).2 := by
  let spawning : Timeline σ :=
    { t with callers := t.callers ++ [⟨t.callers.length, kind, .begun⟩] }
  have taskState : (t.spawn kind).2.taskState
    = spawning.taskState.wake (.caller t.callers.length) :=
    taskState_wake spawning _
  have before : Queues t.taskState spawning.taskState := .of_eq rfl rfl rfl
  have queues : Queues t.taskState (spawning.taskState.wake (.caller t.callers.length)) :=
    before.trans (.wake _ fun _ same => nomatch same)
  exact h.of_queues (taskState ▸ queues) (congrArg TaskState.loops taskState)
    (loopState_wake spawning _)

lemma setGate (h : Queued t) (kind : RoundKind) (isOpen : Bool) :
    Queued (t.setGate kind isOpen) := by
  have taskState := taskState_setGate t kind isOpen
  refine h.of_queues ?_ (congrArg TaskState.loops taskState) (loopState_setGate t kind isOpen)
  rw [taskState]
  cases isOpen with
  | false => exact .of_eq rfl rfl rfl
  | true =>
    refine (Queues.wakeAll t.taskState (heldBack t kind) fun id mem => ?_).trans
      (.of_eq rfl rfl rfl)
    obtain ⟨_, -, same⟩ := List.mem_map.mp mem
    cases same

/-- A loop begins behind all others, and these are ready to stop. -/
lemma starts (h : Queued t) (attentive : Attentive S t) (owned : t.loopState.Owned)
    (starts : t.Starts t') : Queued t' := by
  cases starts with
  | not => exact h
  | @begins p _ idle =>
    let noted := t.note (.info "Starting metrics poller")
    have taskState := taskState_beginLoop noted p
    have loopState : (noted.beginLoop p).loopState = t.loopState.begin p :=
      loopState_beginLoop noted p
    have loopCount : (noted.beginLoop p).loopCount = t.loopCount + 1 := loopCount_beginLoop noted p
    have cancelled := owned.cancelled_of_idle ((isRunning_loopState t).trans idle)
    refine ⟨fun id known => ?_, ?_⟩
    · rw [loopCount]
      rw [taskState] at known
      cases known with
      | loop isThere =>
        rw [List.map_append, List.mem_append] at isThere
        rcases isThere with old | new
        · exact Nat.lt_succ_of_lt (h.given id (.loop old))
        · rw [List.mem_singleton.mp new]
          exact Nat.lt_succ_self _
      | ready isReady =>
        rcases TaskState.mem_woken.mp isReady with old | new
        · exact Nat.lt_succ_of_lt (h.given id (.ready old))
        · rw [TaskId.loop.inj new]
          exact Nat.lt_succ_self _
      | timer isSet => exact Nat.lt_succ_of_lt (h.given id (.timer isSet))
    · rw [taskState]
      refine List.pairwise_append.mpr ⟨?_, List.pairwise_singleton _ _, fun l isThere l' new => ?_⟩
      · let woken : TaskState := { t.taskState with ready := woken t.ready (.loop t.loopCount) }
        have lined : woken.Lined none := h.lined.mono rfl (TaskState.prefix_woken _ _)
        exact lined
      · rw [List.mem_singleton.mp new]
        have isCancelled : l.cancelled = true := cancelled l.token (List.mem_map_of_mem isThere)
        have ready : .loop l.id ∈ t.ready := attentive.ready_of_cancelled isThere isCancelled
        have unknown : .loop t.loopCount ∉ t.ready := fun isReady =>
          Nat.lt_irrefl _ (h.given _ (.ready isReady))
        exact ⟨attentive.sound.numbered l isThere, isCancelled, fun which => by cases which <;> rfl,
          .inr ((Before.of_mem ready unknown).longer (TaskState.prefix_woken _ _)), nofun⟩

/-- A loop that is cancelled stays in line. -/
lemma cancelLoop (h : Queued t) (n : Note) {p : Poller} (rest : Option Poller)
    (given : ∀ id, p.current = some id → id < t.loopCount) :
    Queued { (t.note n).cancelLoop p with poller := rest } := by
  cases current : p.current with
  | none =>
    have same : (t.note n).cancelLoop p = t.note n := by rw [Timeline.cancelLoop, current]
    rw [same]
    exact h.of_lined (fun _ known => known) h.lined rfl
  | some id =>
    have taskState : ({ (t.note n).cancelLoop p with poller := rest } : Timeline σ).taskState
        = t.taskState.cancel id := taskState_cancelLoop (t.note n) current
    have loopCount : ((t.note n).cancelLoop p).loopCount = t.loopCount :=
      congrArg LoopState.loopCount (loopState_cancelLoop (t.note n) p)
    have ids : (t.taskState.cancel id).loops.map Poller.Loop.id = t.loops.map Poller.Loop.id := by
      simp only [TaskState.cancel, List.map_map]
      refine List.map_congr_left fun l _ => ?_
      simp only [Function.comp_apply]
      split <;> rfl
    refine ⟨fun id' known => ?_, taskState ▸ ?_⟩
    · refine Nat.lt_of_lt_of_eq ?_ loopCount.symm
      rw [taskState] at known
      cases known with
      | loop isThere => exact h.given id' (.loop (ids ▸ isThere))
      | ready isReady =>
        rcases TaskState.mem_woken.mp isReady with old | new
        · exact h.given id' (.ready old)
        · exact given id' (current.trans (congrArg some (TaskId.loop.inj new).symm))
      | timer isSet => exact h.given id' (.timer isSet)
    · exact h.lined.map rfl (TaskState.prefix_woken _ _) (fun l => by split <;> rfl)
        (fun l cancelled => by split <;> simp [cancelled])
        (fun l which => by split <;> cases which <;> rfl)

lemma haltPoller (h : Queued t) (managed : Managed t) : Queued t.haltPoller := by
  unfold Timeline.haltPoller
  split
  · exact h
  next p poller =>
    split
    · exact h.cancelLoop _ _ fun _ => managed.current_lt poller
    · exact h

lemma releasePoller (h : Queued t) (managed : Managed t) : Queued t.releasePoller := by
  unfold Timeline.releasePoller
  split
  · exact h
  next p poller =>
    dsimp only
    split
    · exact h.cancelLoop _ _ fun _ => managed.current_lt poller
    · exact h.of_lined (fun _ known => known) h.lined rfl

/-- Whatever is done from outside, the loops are in line. -/
lemma act (h : Queued t) (attentive : Attentive S t) (managed : Managed t) (a : Act) :
    Queued (t.act a) := by
  cases a with
  | call kind => exact h.call attentive.sound kind
  | see kind round => exact h.of_taskState (taskState_see t kind round) (t.loopState_see kind round)
  | spawn kind => exact h.spawn kind
  | setGate kind isOpen => exact h.setGate kind isOpen
  | abandon | chore | releaseStore | note => exact h.of_queues (.of_eq rfl rfl rfl) rfl rfl
  | startPoller => exact h.starts attentive managed.owned t.starts_startPoller
  | haltPoller => exact h.haltPoller managed
  | releasePoller => exact h.releasePoller managed

lemma fresh (fresh : t.IsFresh) (timing : Poller.Timing) (refreshes : Bool) :
    Queued (t.withPoller timing refreshes) := by
  obtain ⟨session, directory, namesNamespace, capacity, source, rfl⟩ := fresh
  refine ⟨fun id known => ?_, .nil⟩
  cases known with
  | loop mem | ready mem | timer mem => cases mem

end Queued

/-- However timelines drift, their loops are in line. -/
theorem Drift.queued (drift : Drift S t t') (attentive : Attentive S t) (managed : Managed t)
    (h : Queued t) : Queued t' := by
  induction drift with
  | refl => exact h
  | beat before beat ih =>
    cases beat with
    | go => exact ih.next (before.attentive attentive).sound
    | wait => exact ih.moveTo _
  | act before a ih => exact ih.act (before.attentive attentive) (before.managed managed) a
  | late before isThere late ih => exact ih.late (before.attentive attentive).sound isThere late

end MetricWatch.Timeline
