import MetricWatch.Proofs.Polling.Course
import MetricWatch.Proofs.Polling.Separation
import Mathlib.Logic.Function.Iterate

/-!
# A schedule on its own

While a poller is not stopped and nobody else calls for the rounds of one of its schedules, at most
one thing can go on at a time on the side of that schedule: its fetch, or else the schedule itself,
or else the clock. So there is one way for the schedule to go on its own, stride by stride, and
whatever the timeline does, the side of the schedule keeps to that way. The main statement is
`Trails.lapse`.
-/

namespace MetricWatch.Timeline

variable {σ π : Type} {S : Source σ} {O : Source π} {part : σ → π} {which : Poller.Which}
  {t t' : Timeline σ} {u : Timeline π} {l : Poller.Loop}

lemma kindOf_injective {other : Poller.Which} (same : kindOf other = kindOf which) :
    other = which := by
  cases which <;> cases other <;> first | rfl | cases same

/-! ### Undivided attention -/

namespace TaskState

variable {g g' : TaskState} {handle : Option Nat}

/-- Whether all loops are live and are the one in the poller's handle, and nothing but a schedule of
that loop calls for the rounds of its kind. -/
structure Alone (which : Poller.Which) (handle : Option Nat) (g : TaskState) : Prop where
  live : ∀ l ∈ g.loops, l.cancelled = false
  running : ∀ l ∈ g.loops, ∀ which, (l.schedule which).isStopped = false
  held : ∀ l ∈ g.loops, handle = some l.id
  others : ∀ c ∈ g.callers, c.kind ≠ kindOf which
  awaited : ∀ f ∈ g.fetches, f.kind = kindOf which →
    ∃ l ∈ g.loops, ∃ failed, (l.schedule which).stage = .inRound f.round failed

namespace Alone

lemma of_eq (h : g.Alone which handle) (loops : g'.loops = g.loops)
    (callers : g'.callers = g.callers) (fetches : g'.fetches = g.fetches) :
    g'.Alone which handle :=
  ⟨loops ▸ h.live, loops ▸ h.running, loops ▸ h.held, callers ▸ h.others,
    fun f mem own => loops ▸ h.awaited f (fetches ▸ mem) own⟩

/-- There is but one loop. -/
lemma unique (h : g.Alone which handle) (fit : g.Fit) {l' : Poller.Loop} (isThere : l ∈ g.loops)
    (isThere' : l' ∈ g.loops) : l' = l := by
  have same := (h.held l' isThere').symm.trans (h.held l isThere)
  exact List.inj_on_of_nodup_map fit.loops isThere' isThere (Option.some.inj same)

/-- While its round is fetched, a schedule has no turn. -/
lemma no_fetch (h : g.Alone which handle) (fit : g.Fit) (isThere : l ∈ g.loops)
    (turn : g.Turn l which g') : ∀ f ∈ g.fetches, f.kind ≠ kindOf which := by
  intro f mem own
  obtain ⟨l', isThere', failed, stage⟩ := h.awaited f mem own
  obtain rfl := h.unique fit isThere isThere'
  cases turn with
  | stops cancelled =>
    rw [h.live l' isThere] at cancelled
    cases cancelled
  | ticks _ resting | refreshes _ resting | arms _ resting =>
    rw [stage] at resting
    cases resting
  | takesNodes _ refreshing =>
    rw [stage] at refreshing
    cases refreshing
  | takesRound _ inRound ended =>
    rw [stage] at inRound
    obtain ⟨rfl, -⟩ := Poller.Stage.inRound.inj inRound
    have pending := fit.pending f mem
    rw [own] at pending
    exact ended pending

lemma running_of_passes {now : Nat} {s s' : Poller.Schedule} (passes : Passes now false s s') :
    s'.isStopped = false := by
  cases passes with
  | stops cancelled => cases cancelled
  | ticks _ _ _ next => rcases next with rfl | ⟨_, _, rfl⟩ | ⟨_, _, rfl⟩ <;> rfl
  | takesNodes _ _ next => rcases next with rfl | ⟨_, _, rfl⟩ <;> rfl
  | arms | takesRound => rfl

/-- Whichever schedule goes on, nothing comes between the other one and its round. -/
lemma turn (h : g.Alone which handle) (fit : g.Fit) (isThere : l ∈ g.loops) {other : Poller.Which}
    (turn : g.Turn l other g') : g'.Alone which handle := by
  obtain ⟨s', goes⟩ := turn.goes
  have live := h.live l isThere
  have only : ∀ l' ∈ g'.loops, l' = l.withSchedule other s' := by
    intro l' mem
    rw [goes.loops] at mem
    rcases mem_setSchedule fit isThere mem with ⟨old, distinct⟩ | new
    · exact absurd (congrArg Poller.Loop.id (h.unique fit isThere old)) distinct
    · exact new
  have there : l.withSchedule other s' ∈ g'.loops := by
    rw [goes.loops]
    exact List.mem_map.mpr ⟨l, isThere, if_pos rfl⟩
  refine ⟨fun l' mem => ?_, fun l' mem which => ?_, fun l' mem => ?_, ?_, fun f mem own => ?_⟩
  · rw [only l' mem]
    cases other <;> exact live
  · rw [only l' mem]
    by_cases same : which = other
    · subst same
      rw [schedule_withSchedule]
      exact running_of_passes (live ▸ goes.passes)
    · rw [schedule_withSchedule_other same]
      exact h.running l isThere which
  · rw [only l' mem, id_withSchedule]
    exact h.held l isThere
  · rw [goes.keeps.callers]
    exact h.others
  · rcases goes.awaited f mem with old | ⟨kind, failed, stage⟩
    · obtain ⟨l', isThere', failed, stage⟩ := h.awaited f old own
      obtain rfl := h.unique fit isThere isThere'
      by_cases same : other = which
      · subst same
        exact absurd own (h.no_fetch fit isThere turn f old)
      · exact ⟨_, there, failed, by rwa [schedule_withSchedule_other (Ne.symm same)]⟩
    · obtain rfl := kindOf_injective (kind.symm.trans own)
      exact ⟨_, there, failed, by rwa [schedule_withSchedule]⟩

lemma fetchTurn (h : g.Alone which handle) {f : Fetch} (turn : g.FetchTurn f g') :
    g'.Alone which handle := by
  have restaged (stage : FetchStage) : ∀ f' ∈ (g.setStage f.kind f.round stage).fetches,
      f'.kind = kindOf which →
        ∃ l ∈ g.loops, ∃ failed, (l.schedule which).stage = .inRound f'.round failed := by
    refine List.forall_mem_map.mpr fun f' mem => ?_
    split <;> exact h.awaited f' mem
  cases turn with
  | stays => exact h
  | holds => exact ⟨h.live, h.running, h.held, h.others, restaged _⟩
  | waits => exact ⟨h.live, h.running, h.held, h.others, restaged _⟩
  | ends =>
    exact ⟨h.live, h.running, h.held, h.others,
      fun f' mem => h.awaited f' (List.mem_filter.mp mem).1⟩

lemma enters (h : g.Alone which handle) {kind : RoundKind} {round : Nat}
    (other : kind ≠ kindOf which) (enters : g.Enters kind round g') : g'.Alone which handle := by
  obtain ⟨keeps, loops, -⟩ := enters.keeps
  refine ⟨loops ▸ h.live, loops ▸ h.running, loops ▸ h.held, keeps.callers ▸ h.others,
    fun f mem own => ?_⟩
  rw [loops]
  rcases enters.fetches f mem with old | ⟨kind, -⟩
  · exact h.awaited f old own
  · exact absurd (kind.symm.trans own) other

lemma setCaller (h : g.Alone which handle) (id : Nat) (stage : CallerStage) :
    (g.setCaller id stage).Alone which handle := by
  refine ⟨h.live, h.running, h.held, List.forall_mem_map.mpr fun c mem => ?_, h.awaited⟩
  split <;> exact h.others c mem

lemma callerTurn (h : g.Alone which handle) {c : Caller} (isThere : c ∈ g.callers)
    (turn : g.CallerTurn c g') : g'.Alone which handle := by
  cases turn with
  | stays => exact h
  | served | declined => exact h.setCaller ..
  | admitted _ enters => exact (h.enters (h.others c isThere) enters).setCaller ..

end Alone

instance (g : TaskState) (f : Fetch) : Decidable (g.fetchDue f) :=
  match stage : f.stage with
  | .begun _ => .isTrue (by simp [fetchDue, stage])
  | .held _ _ => decidable_of_iff (g.isOpen f.kind = true) (by simp [fetchDue, stage])
  | .waiting _ until_ => decidable_of_iff (until_ ≤ g.now) (by simp [fetchDue, stage])

end TaskState

/-! ### Strides -/

/-- The stride of a schedule on its own: its fetch goes on if it can, or else the schedule if it
can, or else the clock. -/
def stride (O : Source π) (which : Poller.Which) (u : Timeline π) : Timeline π :=
  match u.fetches.find? fun f => f.kind = kindOf which ∧ u.taskState.fetchDue f with
  | some f => u.stepFetch O (kindOf which) f.round
  | none =>
    ((u.poller.bind Poller.handle).bind fun id => u.stepSchedule O id which).getD
      { u with now := u.now + 1 }

/-- Sound timelines on which a schedule is alone with its rounds. -/
structure Steady (S : Source σ) (which : Poller.Which) (t : Timeline σ) : Prop where
  sound : Sound S t
  alone : t.taskState.Alone which (t.poller.bind Poller.handle)

namespace Shows

/-- Whether a fetch can go on is the same on the same side. -/
lemma fetchDue (h : Shows part which t u) {f : Fetch} (own : f.kind = kindOf which) :
    t.taskState.fetchDue f ↔ u.taskState.fetchDue f := by
  have isOpen : t.taskState.isOpen f.kind = u.taskState.isOpen f.kind := own ▸ h.isOpen
  have now : t.taskState.now = u.taskState.now := h.now
  unfold TaskState.fetchDue
  rw [isOpen, now]

/-- Which fetch of a kind can go on is the same on the same side. -/
lemma find?_due (h : Shows part which t u) :
    (u.fetches.find? fun f => f.kind = kindOf which ∧ u.taskState.fetchDue f)
      = (t.fetches.filter fun f => f.kind = kindOf which).find? fun f => t.taskState.fetchDue f := by
  rw [h.fetches, List.find?_filter]
  congr 1
  funext f
  by_cases own : f.kind = kindOf which
  · simp [own, h.fetchDue own]
  · simp [own]

/-- A fetch that goes on is a stride. -/
lemma stride_of_fetch (h : Shows part which t u) (shows : S.Shows O part which) (sound : Sound S t)
    {f : Fetch} (isThere : f ∈ t.fetches) (own : f.kind = kindOf which)
    (due : t.taskState.fetchDue f) :
    Shows part which (t.stepFetch S (kindOf which) f.round) (stride O which u) := by
  have only : (t.fetches.filter fun f => f.kind = kindOf which) = [f] :=
    own ▸ sound.fetches_eq isThere
  have found : (u.fetches.find? fun f => f.kind = kindOf which ∧ u.taskState.fetchDue f) = some f := by
    rw [h.find?_due, only]
    exact List.find?_cons_of_pos (by simpa using due)
  rw [stride, found]
  exact h.stepFetch shows (fun f mem _ asked => sound.ofKind mem asked) f.round

/-- A schedule that goes on is a stride. -/
lemma stride_of_turn (h : Shows part which t u) (shows : S.Shows O part which)
    (steady : Steady S which t) {id : Nat} (stepped : t.stepSchedule S id which = some t') :
    Shows part which t' (stride O which u) := by
  obtain ⟨sound, alone⟩ := steady
  obtain ⟨l, found, turn⟩ := turn_of_some stepped
  obtain ⟨isThere, rfl⟩ := TaskState.mem_of_loop? (g := t.taskState) found
  have none : (u.fetches.find? fun f => f.kind = kindOf which ∧ u.taskState.fetchDue f) = none := by
    have noFetch := alone.no_fetch sound.fit isThere
      (turn.taskState sound.isAhead (sound.fit.plain l isThere))
    have empty : (t.fetches.filter fun f => f.kind = kindOf which) = [] :=
      List.filter_eq_nil_iff.mpr fun f mem => by simpa using noFetch f mem
    rw [h.find?_due, empty]
    rfl
  have handle : u.poller.bind Poller.handle = some l.id := h.poller ▸ alone.held l isThere
  have both := h.stepSchedule shows sound.fit.plain l.id
  rw [stepped] at both
  cases step : u.stepSchedule O l.id which with
  | none =>
    rw [step] at both
    cases both
  | some u' =>
    rw [step] at both
    rw [stride, none, handle]
    cases both with
    | some after => simpa [step] using after

/-- Where neither can go on, the clock is a stride. -/
lemma stride_of_rest (h : Shows part which t u) (shows : S.Shows O part which) (sound : Sound S t)
    (idle : ∀ f ∈ t.fetches, ¬ t.taskState.fetchDue f)
    (stuck : ∀ id, t.stepSchedule S id which = none) :
    stride O which u = { u with now := u.now + 1 } := by
  have none : (u.fetches.find? fun f => f.kind = kindOf which ∧ u.taskState.fetchDue f) = none := by
    rw [h.find?_due]
    refine List.find?_eq_none.mpr fun f mem => ?_
    simpa using idle f (List.mem_filter.mp mem).1
  have stuck' (id : Nat) : u.stepSchedule O id which = Option.none := by
    have both := h.stepSchedule shows sound.fit.plain id
    rw [stuck id] at both
    cases step : u.stepSchedule O id which with
    | none => rfl
    | some u' =>
      rw [step] at both
      cases both
  rw [stride, none]
  cases u.poller.bind Poller.handle with
  | none => rfl
  | some id =>
    dsimp only [Option.bind_some]
    rw [stuck' id]
    rfl

end Shows

/-! ### Timelines that keep to the way -/

/-- Whether a timeline shows how far a schedule has come on its own, and the schedule was nowhere
ahead of time. -/
def Trails (O : Source π) (part : σ → π) (which : Poller.Which) (t : Timeline σ)
    (u : Timeline π) : Prop :=
  ∃ n, Shows part which t ((stride O which)^[n] u) ∧ ∀ i ≤ n, ((stride O which)^[i] u).now ≤ t.now

namespace Trails

lemma start (h : Shows part which t u) : Trails O part which t u := by
  refine ⟨0, h, fun i least => ?_⟩
  rw [Nat.le_zero.mp least]
  exact Nat.le_of_eq h.now.symm

/-- What leaves the side alone does not lead off the way. -/
lemma stays (h : Trails O part which t u) (same : t'.side part which = t.side part which) :
    Trails O part which t' u := by
  obtain ⟨n, shown, behind⟩ := h
  have now : t'.now = t.now := congrArg Side.now same
  exact ⟨n, same.trans shown, now ▸ behind⟩

/-- Every stride leads on. -/
lemma strides (h : Trails O part which t u) (later : t.now ≤ t'.now)
    (step : ∀ v, Shows part which t v → Shows part which t' (stride O which v)) :
    Trails O part which t' u := by
  obtain ⟨n, shown, behind⟩ := h
  have next : Shows part which t' ((stride O which)^[n + 1] u) := by
    rw [Function.iterate_succ_apply']
    exact step _ shown
  refine ⟨n + 1, next, fun i most => ?_⟩
  rcases Nat.lt_or_eq_of_le most with less | rfl
  · exact (behind i (Nat.le_of_lt_succ less)).trans later
  · exact Nat.le_of_eq next.now.symm

end Trails

/-! ### Beats -/

/-- A fetch that cannot go on stays as it is. -/
lemma FetchTurn.eq_of_not_due {f : Fetch} (turn : FetchTurn S t f t')
    (idle : ¬ t.taskState.fetchDue f) : t' = t := by
  unfold TaskState.fetchDue at idle
  cases turn with
  | stays => rfl
  | holds begun | hears begun =>
    rw [begun] at idle
    exact absurd trivial idle
  | freed held isOpen =>
    rw [held] at idle
    exact absurd isOpen idle
  | ends waiting arrived =>
    rw [waiting] at idle
    exact absurd arrived idle

namespace Steady

lemma of_loops (h : Steady S which t) (sound : Sound S t') (loops : t'.loops = t.loops)
    (callers : t'.callers = t.callers) (fetches : t'.fetches = t.fetches)
    (poller : t'.poller = t.poller) : Steady S which t' := by
  refine ⟨sound, ?_⟩
  rw [poller]
  exact h.alone.of_eq loops callers fetches

lemma stepSchedule (h : Steady S which t) {id : Nat} {other : Poller.Which}
    (stepped : t.stepSchedule S id other = some t') : Steady S which t' := by
  obtain ⟨sound, l, found, -, -⟩ := h.sound.stepSchedule stepped
  obtain ⟨l, found, turn⟩ := turn_of_some stepped
  have isThere := (TaskState.mem_of_loop? (g := t.taskState) found).1
  have poller : t'.poller = t.poller := congrArg LoopState.poller turn.loopState
  refine ⟨sound, ?_⟩
  rw [poller]
  exact h.alone.turn h.sound.fit isThere
    (turn.taskState h.sound.isAhead (h.sound.fit.plain l isThere))

lemma turned (h : Steady S which t) (id : Nat) : Steady S which (t.turned id) := by
  refine ⟨h.sound.turned id, List.forall_mem_map.mpr fun l mem => ?_,
    List.forall_mem_map.mpr fun l mem which => ?_, List.forall_mem_map.mpr fun l mem => ?_,
    h.alone.others, fun f mem own => ?_⟩
  · split <;> exact h.alone.live l mem
  · have running := h.alone.running l mem which
    split
    · cases which <;> exact running
    · exact running
  · split <;> exact h.alone.held l mem
  · obtain ⟨l, isThere, failed, stage⟩ := h.alone.awaited f mem own
    refine ⟨_, List.mem_map.mpr ⟨l, isThere, rfl⟩, failed, ?_⟩
    split
    · cases which <;> exact stage
    · exact stage

/-- No loop ends that is not cancelled. -/
lemma swept_eq (h : Steady S which t) (id : Nat) : t.swept id = t := by
  have all : (t.loops.filter fun l => ¬ (l.id = id ∧ l.isFinished)) = t.loops := by
    refine List.filter_eq_self.mpr fun l mem => ?_
    have running : l.list.isStopped = false := h.alone.running l mem .list
    simp [Poller.Loop.isFinished, running]
  rw [swept, all]

end Steady

namespace Trails

/-- Turns of a schedule of its own are strides, and those of the other one leave the side alone. -/
lemma spins (h : Trails O part which t u) (shows : S.Shows O part which) (steady : Steady S which t)
    {id : Nat} {other : Poller.Which} (spins : Spins S id other t t') :
    Steady S which t' ∧ Trails O part which t' u := by
  induction spins with
  | refl => exact ⟨steady, h⟩
  | @tail v w _ stepped ih =>
    obtain ⟨steady, trails⟩ := ih
    obtain ⟨l, found, turn⟩ := turn_of_some stepped
    have isThere := (TaskState.mem_of_loop? (g := v.taskState) found).1
    refine ⟨steady.stepSchedule stepped, ?_⟩
    by_cases own : other = which
    · subst own
      obtain ⟨s', goes, -⟩ := steady.sound.stepSchedule_loop? found stepped
      have now : w.now = v.now := goes.keeps.now
      exact trails.strides (Nat.le_of_eq now.symm) fun _ shown =>
        shown.stride_of_turn shows steady stepped
    · exact trails.stays (turn.side_other own shows (steady.sound.fit.plain l isThere))

lemma stepLoop (h : Trails O part which t u) (shows : S.Shows O part which)
    (steady : Steady S which t) (id : Nat) :
    Steady S which (t.stepLoop S id) ∧ Trails O part which (t.stepLoop S id) u := by
  obtain ⟨-, same⟩ | ⟨_, _, _, v, -, first, last, stepped, -⟩ := steady.sound.stepLoop_spins id
  · rw [same]
    exact ⟨steady, h⟩
  · obtain ⟨steady, trails⟩ := (h.stays (t.side_turned part which id)).spins shows
      (steady.turned id) first
    obtain ⟨steady, trails⟩ := trails.spins shows steady last
    rw [stepped, steady.swept_eq id]
    exact ⟨steady, trails⟩

lemma stepFetch (h : Trails O part which t u) (shows : S.Shows O part which)
    (steady : Steady S which t) (kind : RoundKind) (round : Nat) :
    Steady S which (t.stepFetch S kind round) ∧ Trails O part which (t.stepFetch S kind round) u := by
  have sound := steady.sound.stepFetch kind round
  obtain ⟨same, -⟩ | ⟨f, isThere, rfl, rfl, turn⟩ := fetchTurn S t kind round
  · rw [same]
    exact ⟨steady, h⟩
  · have ofKind : ∀ g, f.stage.gathered? = some g → g.kind = f.kind :=
      fun _ => steady.sound.ofKind isThere
    have taskState := turn.taskState ofKind
    have poller : (t.stepFetch S f.kind f.round).poller = t.poller :=
      congrArg LoopState.poller turn.loopState
    refine ⟨⟨sound, ?_⟩, ?_⟩
    · rw [poller]
      exact steady.alone.fetchTurn taskState
    · by_cases own : f.kind = kindOf which
      · by_cases due : t.taskState.fetchDue f
        · refine h.strides (Nat.le_of_eq taskState.same.1.symm) fun _ shown => ?_
          have stride := shown.stride_of_fetch shows steady.sound isThere own due
          rwa [← own] at stride
        · rw [turn.eq_of_not_due due]
          exact h
      · exact h.stays (turn.side_other ofKind own shows)

lemma stepCaller (h : Trails O part which t u) (steady : Steady S which t) (id : Nat) :
    Steady S which (t.stepCaller id) ∧ Trails O part which (t.stepCaller id) u := by
  have sound := steady.sound.stepCaller id
  refine ⟨⟨sound, ?_⟩, h.stays (side_stepCaller steady.alone.others part id)⟩
  have poller : (t.stepCaller id).poller = t.poller :=
    congrArg LoopState.poller (t.loopState_stepCaller id)
  rw [poller]
  obtain ⟨same, -⟩ | ⟨c, isThere, rfl, turn⟩ := taskState_stepCaller steady.sound.isAhead id
  · rw [same]
    exact steady.alone
  · exact steady.alone.callerTurn isThere turn

lemma next (h : Trails O part which t u) (shows : S.Shows O part which)
    (steady : Steady S which t) :
    Steady S which (t.next S) ∧ Trails O part which (t.next S) u := by
  unfold Timeline.next
  split
  · exact ⟨steady, h⟩
  next task rest _ =>
    have popped : Steady S which { t with ready := rest } :=
      steady.of_loops (steady.sound.popped rest) rfl rfl rfl rfl
    have h : Trails O part which { t with ready := rest } u := h.stays rfl
    cases task with
    | fetch kind round => exact h.stepFetch shows popped kind round
    | caller id => exact h.stepCaller popped id
    | loop id => exact h.stepLoop shows popped id

end Trails

/-! ### The clock -/

lemma stepSchedule_of_idle {id : Nat} (found : t.loop? id = some l)
    (idle : Idle t.now t.result? l which) : t.stepSchedule S id which = none := by
  rw [stepSchedule, found]
  dsimp only
  cases idle with
  | stopped isStopped =>
    cases stage : (l.schedule which).stage with
    | stopped => rfl
    | resting | refreshing | inRound => simp [Poller.Schedule.isStopped, stage] at isStopped
  | resting live resting early => simp [resting, live, early]
  | refreshing live refreshing early => simp [refreshing, live, early]
  | inRound live inRound pending => simp [inRound, live, judge_eq_none.mpr pending]

/-- Where no task is ready, no schedule has a turn. -/
lemma Attentive.stepSchedule_none (h : Attentive S t) (rest : t.ready = []) (which : Poller.Which)
    (id : Nat) : t.stepSchedule S id which = none := by
  cases found : t.loop? id with
  | none => rw [stepSchedule, found]
  | some l =>
    have isThere := (TaskState.mem_of_loop? (g := t.taskState) found).1
    have atEase : t.taskState.AtEase l := by
      by_contra restless
      exact h.not_due rest _ (.loop isThere restless)
    exact stepSchedule_of_idle found (atEase.2 which)

lemma side_moveTo (t : Timeline σ) (part : σ → π) (which : Poller.Which) (time : Nat) :
    (t.moveTo time).side part which = { t.side part which with now := max t.now time } := by
  unfold moveTo
  rw [wakeAll_eq]
  cases which <;> rfl

/-- Before the first timer is due, no task is made ready. -/
lemma ready_moveTo (rest : t.ready = []) {time : Nat}
    (early : ∀ timer ∈ t.timers, max t.now time < timer.due) : (t.moveTo time).ready = [] := by
  have none : (t.timers.takeWhile fun timer => timer.due ≤ max t.now time) = [] := by
    cases timers : t.timers with
    | nil => rfl
    | cons first _ =>
      have later := early first (timers ▸ List.mem_cons_self)
      exact List.takeWhile_cons_of_neg (by simpa using later)
  have ready := congrArg TaskState.ready (taskState_moveTo t time)
  refine ready.trans ?_
  simp only [TaskState.moveTo]
  have none' : (t.taskState.timers.takeWhile fun timer => timer.due ≤ max t.taskState.now time)
    = [] := none
  rw [none']
  exact rest

namespace Trails

/-- Where no task is ready, the clock is a stride for as long as no timer is due. -/
lemma moveTo (h : Trails O part which t u) (shows : S.Shows O part which)
    (attentive : Attentive S t) (rest : t.ready = []) {time : Nat}
    (soon : ∀ timer ∈ t.timers, time ≤ timer.due) : Trails O part which (t.moveTo time) u := by
  have along (passed : Nat) (early : t.now + passed ≤ max t.now time) :
      Trails O part which (t.moveTo (t.now + passed)) u := by
    induction passed with
    | zero => exact h.stays (by rw [side_moveTo, Nat.add_zero, Nat.max_self]; rfl)
    | succ passed ih =>
      let before := t.moveTo (t.now + passed)
      have side (time : Nat) (later : t.now ≤ time) :
          (t.moveTo time).side part which = { t.side part which with now := time } := by
        rw [side_moveTo, Nat.max_eq_right later]
      have here := side (t.now + passed) (Nat.le_add_right _ _)
      have there := side (t.now + (passed + 1)) (Nat.le_add_right _ _)
      have now : before.now = t.now + passed := congrArg Side.now here
      have now' : (t.moveTo (t.now + (passed + 1))).now = before.now + 1 := by
        rw [now]
        exact congrArg Side.now there
      refine (ih (by omega)).strides (by rw [now']; exact Nat.le_succ _) fun v shown => ?_
      -- No timer is due before the clock has come to the time.
      have quiet : before.ready = [] := by
        refine ready_moveTo rest fun timer mem => ?_
        have later := attentive.timed.later timer mem
        have due := soon timer mem
        have later : t.now < timer.due := later
        omega
      have attentive : Attentive S before := attentive.moveTo _
      have idle : ∀ f ∈ before.fetches, ¬ before.taskState.fetchDue f :=
        fun f mem due => attentive.not_due quiet _ (.fetch mem due)
      rw [shown.stride_of_rest shows attentive.sound idle (attentive.stepSchedule_none quiet which)]
      have same : v.side id which = { t.side part which with now := t.now + passed } :=
        shown.symm.trans here
      have clock : ({ v with now := v.now + 1 } : Timeline π).side id which
          = { v.side id which with now := (v.side id which).now + 1 } := by cases which <;> rfl
      unfold Shows
      rw [there, clock, same]
      rfl
  by_cases later : t.now ≤ time
  · have arrived := along (time - t.now) (by omega)
    rwa [Nat.add_sub_cancel' later] at arrived
  · refine h.stays ?_
    rw [side_moveTo, Nat.max_eq_left (Nat.le_of_not_le later)]
    rfl

/-- As time passes, the side of a schedule keeps to the way of the schedule on its own. -/
theorem lapse (h : Trails O part which t u) (shows : S.Shows O part which)
    (steady : Steady S which t) (attentive : Attentive S t) (lapse : Lapse S t t') :
    Steady S which t' ∧ Trails O part which t' u := by
  induction lapse with
  | refl => exact ⟨steady, h⟩
  | @tail v w before beat ih =>
    obtain ⟨steady, trails⟩ := ih
    cases beat with
    | go => exact trails.next shows steady
    | @wait rest time soon =>
      have attentive := attentive.lapse before
      refine ⟨?_, trails.moveTo shows attentive rest soon⟩
      have taskState := taskState_moveTo v time
      exact steady.of_loops (steady.sound.moveTo time) (congrArg TaskState.loops taskState)
        (congrArg TaskState.callers taskState) (congrArg TaskState.fetches taskState)
        (congrArg LoopState.poller (v.loopState_moveTo time))

/-- On its own, a schedule is no further than a timeline on which nothing is left that could go
on. -/
lemma le_of_rest {n m : Nat} (shown : Shows part which t ((stride O which)^[n] u))
    (shows : S.Shows O part which) (attentive : Attentive S t) (rest : t.ready = [])
    (behind : ∀ i ≤ m, ((stride O which)^[i] u).now ≤ t.now) : m ≤ n := by
  have idle : ∀ f ∈ t.fetches, ¬ t.taskState.fetchDue f :=
    fun f mem due => attentive.not_due rest _ (.fetch mem due)
  have stuck := shown.stride_of_rest shows attentive.sound idle
    (attentive.stepSchedule_none rest which)
  by_contra further
  have late := behind (n + 1) (Nat.lt_of_not_le further)
  rw [Function.iterate_succ_apply', stuck, ← shown.now] at late
  exact Nat.lt_irrefl _ late

/-- Two timelines that keep to the same way are equally far when at the same time nothing is left
that could go on. -/
theorem together {σ' : Type} {S' : Source σ'} {part' : σ' → π} {v : Timeline σ'}
    (h : Trails O part which t u) (h' : Trails O part' which v u)
    (shows : S.Shows O part which) (shows' : S'.Shows O part' which)
    (attentive : Attentive S t) (attentive' : Attentive S' v) (rest : t.ready = [])
    (rest' : v.ready = []) (now : t.now = v.now) :
    ∃ w, Shows part which t w ∧ Shows part' which v w := by
  obtain ⟨n, shown, behind⟩ := h
  obtain ⟨m, shown', behind'⟩ := h'
  have least : m ≤ n := le_of_rest shown shows attentive rest (now ▸ behind')
  have most : n ≤ m := le_of_rest shown' shows' attentive' rest' (now ▸ behind)
  obtain rfl := Nat.le_antisymm least most
  exact ⟨_, shown, shown'⟩

end Trails

end MetricWatch.Timeline
