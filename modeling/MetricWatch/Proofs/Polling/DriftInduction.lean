import MetricWatch.Proofs.Polling.Drift
import MetricWatch.Proofs.Polling.Separation

/-!
# Induction on drifts

A drift falls into pieces: a schedule looks at what it waits for, a fetch takes its turn, the clock
moves on, or something happens that is none of the schedules' business. What every piece keeps is
kept by the whole drift. The main statements are `Drift.pieces` and `Drift.induction`.
-/

namespace MetricWatch

/-- What a schedule waits for after a tick: the nodes or a round. -/
def Poller.Stage.errand? : Poller.Stage → Option Poller.Stage
  | .refreshing until_ nodes => some (.refreshing until_ nodes)
  | .inRound round failed => some (.inRound round failed)
  | .resting _ | .stopped => none

lemma Poller.Schedule.errand?_of_isStopped {s : Poller.Schedule} (h : s.isStopped = true) :
    s.stage.errand? = none := by
  unfold isStopped at h
  split at h
  next stopped =>
    rw [stopped]
    rfl
  next => cases h

/-- The store when a refresh of the nodes has brought something. -/
def Store.refreshed (s : Store) : Except Api.Error (List String) → Store
  | .ok nodes => s.updateNodes nodes
  | .error _ => s

lemma Store.snd_refresh (s : Store) (brought : Except Api.Error (List String)) :
    (s.refresh brought).2 = s.refreshed brought := by cases brought <;> rfl

/-- Whether a refresh of the nodes failed. -/
def Poller.isFailed : Except Api.Error (List String) → Bool
  | .ok _ => false
  | .error _ => true

namespace Poller.Stats

@[simp] lemma ticks_fail (s : Stats) (which other : Which) :
    (s.fail which).ticks other = s.ticks other := by cases which <;> cases other <;> rfl

@[simp] lemma failures_fail (s : Stats) (which other : Which) :
    (s.fail which).failures other = s.failures other + if which = other then 1 else 0 := by
  cases which <;> cases other <;> rfl

@[simp] lemma ticks_tick (s : Stats) (which other : Which) :
    (s.tick which).ticks other = s.ticks other + if which = other then 1 else 0 := by
  cases which <;> cases other <;> rfl

@[simp] lemma failures_tick (s : Stats) (which other : Which) :
    (s.tick which).failures other = s.failures other := by cases which <;> cases other <;> rfl

end Poller.Stats

namespace Timeline

variable {σ : Type} {S : Source σ} {t t' t'' : Timeline σ} {l : Poller.Loop} {which : Poller.Which}

/-! ### Errands -/

/-- What a schedule of the loop of a number waits for after a tick. -/
def errand (t : Timeline σ) (id : Nat) (which : Poller.Which) : Option Poller.Stage :=
  (t.loop? id).bind fun l => (l.schedule which).stage.errand?

lemma errand_of_mem (fit : t.taskState.Fit) (isThere : l ∈ t.loops) (which : Poller.Which) :
    t.errand l.id which = (l.schedule which).stage.errand? := by
  have found : t.loop? l.id = some l := fit.loop?_of_mem isThere
  rw [errand, found, Option.bind_some]

/-- Who has an errand is a loop. -/
lemma mem_of_errand {id : Nat} (h : t.errand id which ≠ none) : ∃ l ∈ t.loops, l.id = id := by
  cases found : t.loop? id with
  | none => exact absurd (by rw [errand, found, Option.bind_none]) h
  | some l => exact ⟨l, TaskState.mem_of_loop? (g := t.taskState) found⟩

lemma errand_congr (loops : t'.loops = t.loops) (id : Nat) (which : Poller.Which) :
    t'.errand id which = t.errand id which := by
  unfold errand loop?
  rw [loops]

lemma loop?_map {f : Poller.Loop → Poller.Loop} (loops : t'.loops = t.loops.map f)
    (ids : ∀ l, (f l).id = l.id) (id : Nat) : t'.loop? id = (t.loop? id).map f := by
  unfold loop?
  rw [loops, List.find?_map]
  congr 2
  funext l
  simp only [Function.comp_apply, ids]

/-- Loops that keep their stages keep their errands. -/
lemma errand_map {f : Poller.Loop → Poller.Loop} (loops : t'.loops = t.loops.map f)
    (ids : ∀ l, (f l).id = l.id)
    (stages : ∀ l which, ((f l).schedule which).stage = (l.schedule which).stage) (id : Nat)
    (which : Poller.Which) : t'.errand id which = t.errand id which := by
  unfold errand
  rw [loop?_map loops ids]
  cases t.loop? id with
  | none => rfl
  | some l => simp only [Option.map_some, Option.bind_some, stages]

/-- When a schedule of a loop changes, its errand does, and no other. -/
lemma errand_setSchedule (fit : t.taskState.Fit) (isThere : l ∈ t.loops) {s : Poller.Schedule}
    (loops : t'.loops = (t.taskState.setSchedule l.id which s).loops) (id : Nat)
    (other : Poller.Which) :
    t'.errand id other
      = if id = l.id ∧ other = which then s.stage.errand? else t.errand id other := by
  have found : t.loop? l.id = some l := fit.loop?_of_mem isThere
  unfold errand
  rw [loop?_map loops (fun l' => by split <;> simp [TaskState.id_withSchedule]) id]
  by_cases own : id = l.id
  · subst own
    rw [found, Option.map_some, Option.bind_some, Option.bind_some, if_pos rfl]
    by_cases same : other = which
    · subst same
      rw [if_pos ⟨rfl, rfl⟩, TaskState.schedule_withSchedule]
    · rw [if_neg fun both => same both.2, TaskState.schedule_withSchedule_other same]
  · rw [if_neg fun both => own both.1]
    cases there : t.loop? id with
    | none => rfl
    | some l' =>
      have ids : l'.id = id := (TaskState.mem_of_loop? (g := t.taskState) there).2
      rw [Option.map_some, Option.bind_some, Option.bind_some, if_neg (ids ▸ own)]

/-- A loop that has ended had no errand. -/
lemma errand_swept (sound : Sound S t) (id other : Nat) (which : Poller.Which) :
    (t.swept id).errand other which = t.errand other which := by
  have sound' := sound.swept id
  cases there : t.loop? other with
  | none =>
    have gone : (t.swept id).loop? other = none := by
      refine List.find?_eq_none.mpr fun l mem => ?_
      exact List.find?_eq_none.mp there l (List.mem_filter.mp mem).1
    rw [errand, errand, there, gone]
  | some l =>
    obtain ⟨mem, rfl⟩ := TaskState.mem_of_loop? (g := t.taskState) there
    by_cases ended : l.id = id ∧ l.isFinished = true
    · have gone : (t.swept id).loop? l.id = none := by
        refine List.find?_eq_none.mpr fun l' mem' => ?_
        obtain ⟨mem', stays⟩ := List.mem_filter.mp mem'
        intro same
        have same : l'.id = l.id := by simpa using same
        rw [List.inj_on_of_nodup_map sound.fit.loops mem' mem same] at stays
        simp [ended] at stays
      have finished : l.list.isStopped = true ∧ l.names.isStopped = true := by
        simpa [Poller.Loop.isFinished] using ended.2
      rw [errand, gone, errand_of_mem sound.fit mem, Option.bind_none]
      cases which with
      | list => exact (Poller.Schedule.errand?_of_isStopped finished.1).symm
      | names => exact (Poller.Schedule.errand?_of_isStopped finished.2).symm
    · have stays : l ∈ (t.swept id).loops := List.mem_filter.mpr ⟨mem, decide_eq_true ended⟩
      rw [errand_of_mem sound'.fit stays, errand_of_mem sound.fit mem]

/-- A loop begins without errands. -/
lemma errand_beginLoop (t : Timeline σ) (p : Poller) (id : Nat) (which : Poller.Which) :
    (t.beginLoop p).errand id which = t.errand id which := by
  have loops : (t.beginLoop p).loops = t.loops ++ [newLoop t p] :=
    congrArg TaskState.loops (taskState_beginLoop t p)
  unfold errand loop?
  rw [loops, List.find?_append]
  cases t.loops.find? fun l => l.id = id with
  | some l => rfl
  | none =>
    rw [Option.none_or, List.find?_singleton]
    split
    · cases which <;> rfl
    · rfl

/-! ### What leaves the statistics alone -/

@[simp] lemma stats_wake (t : Timeline σ) (task : TaskId) : (t.wake task).stats = t.stats := by
  rw [wake_eq]

@[simp] lemma stats_noteAll (t : Timeline σ) (notes : List Note) :
    (t.noteAll notes).stats = t.stats := by
  rw [noteAll_eq]

@[simp] lemma stats_see (t : Timeline σ) (kind : RoundKind) (round : Nat) :
    (t.see kind round).2.stats = t.stats := by
  unfold see
  split <;> rfl

@[simp] lemma stats_call (t : Timeline σ) (kind : RoundKind) :
    (t.call kind).2.stats = t.stats := by
  cases t.store.calls kind with
  | declined _ call =>
    cases kind with
    | list => simp only [Timeline.call, call]
    | names =>
      simp only [Timeline.call, call]
      rfl
  | joined _ _ call => simp only [Timeline.call, call]
  | started _ _ call => simp only [Timeline.call, call, stats_wake]

@[simp] lemma stats_asked (S : Source σ) (t : Timeline σ) (kind : RoundKind)
    (items : List String) : (asked S t kind items).stats = t.stats := by
  obtain ⟨_, _, _, consulted⟩ := ask_eq S t kind items
  rw [asked, consulted]
  rfl

@[simp] lemma stats_endRound (t : Timeline σ) (kind : RoundKind) (round : Nat) (g : Gathered) :
    (t.endRound kind round g).stats = t.stats := by
  simp only [endRound, wakeAll_eq, noteAll_eq]

@[simp] lemma stats_awaitAnswers (t : Timeline σ) (kind : RoundKind) (round : Nat) (g : Gathered)
    (delay : Nat) : (t.awaitAnswers kind round g delay).stats = t.stats := by
  unfold awaitAnswers
  split
  · exact t.stats_endRound ..
  · rfl

lemma FetchTurn.stats {f : Fetch} (turn : FetchTurn S t f t') : t'.stats = t.stats := by
  cases turn with
  | stays => rfl
  | holds => exact stats_asked ..
  | hears => exact (stats_awaitAnswers ..).trans (stats_asked ..)
  | freed => exact stats_awaitAnswers ..
  | ends => exact stats_endRound ..

lemma stats_lookAt (t : Timeline σ) (id : Nat) (kind : RoundKind) (round : Nat) :
    (t.lookAt id kind round).stats = t.stats := by
  unfold lookAt
  split
  · exact stats_see ..
  · rfl

lemma stats_stepCaller (t : Timeline σ) (id : Nat) : (t.stepCaller id).stats = t.stats := by
  unfold stepCaller
  split
  · rfl
  next c _ =>
    split
    · have called := t.stats_call c.kind
      generalize t.call c.kind = met at called
      obtain ⟨_ | round, after⟩ := met
      · exact called
      · exact (stats_lookAt ..).trans called
    · exact stats_lookAt ..
    · rfl
    · rfl

lemma stats_moveTo (t : Timeline σ) (time : Nat) : (t.moveTo time).stats = t.stats := by
  rw [moveTo, wakeAll_eq]

lemma stats_setGate (t : Timeline σ) (kind : RoundKind) (isOpen : Bool) :
    (t.setGate kind isOpen).stats = t.stats := by
  cases kind <;> cases isOpen <;> simp only [setGate, wakeAll_eq] <;> rfl

lemma stats_cancelLoop (t : Timeline σ) (p : Poller) : (t.cancelLoop p).stats = t.stats := by
  unfold cancelLoop
  split
  · exact stats_wake ..
  · rfl

/-! ### What a call for a round leaves of a schedule -/

lemma loops_call (t : Timeline σ) (kind : RoundKind) : (t.call kind).2.loops = t.loops := by
  cases t.store.calls kind with
  | declined _ call =>
    cases kind with
    | list => simp only [Timeline.call, call]
    | names =>
      simp only [Timeline.call, call]
      rfl
  | joined _ _ call => simp only [Timeline.call, call]
  | started _ _ call =>
    simp only [Timeline.call, call, wake]
    split <;> rfl

/-- The ways in which a schedule that called for its round is left: its call was declined, and the
failure of a refresh is counted at once, or it waits for the round. -/
inductive Called (t : Timeline σ) (id : Nat) (which : Poller.Which) (s : Poller.Schedule)
    (failed : Bool) (t' : Timeline σ) : Prop
  | declined (refused : t.store.items? (kindOf which) = none)
      (stats : t'.stats = if failed then t.stats.fail which else t.stats)
      (loops : t'.loops = (t.taskState.setSchedule id which
      { s with stage := .resting false }).loops)
  | admitted (welcome : t.store.items? (kindOf which) ≠ none) (stats : t'.stats = t.stats)
      (round : Nat)
      (loops : t'.loops
        = (t.taskState.setSchedule id which { s with stage := .inRound round failed }).loops)

lemma called_beginRound (t : Timeline σ) (id : Nat) (which : Poller.Which) (s : Poller.Schedule)
    (failed : Bool) : t.Called id which s failed (t.beginRound id which s failed) := by
  have met := t.work_call (kindOf which)
  have stats := t.stats_call (kindOf which)
  have loops := t.loops_call (kindOf which)
  unfold beginRound
  generalize t.call (kindOf which) = called at met stats loops
  obtain ⟨called, after⟩ := called
  replace met : CallWork t.work (kindOf which) (t.store.call (kindOf which)).1 called after.work :=
    met
  replace stats : after.stats = t.stats := stats
  replace loops : after.loops = t.loops := loops
  have put (s' : Poller.Schedule) : (after.setSchedule id which s').loops
      = (t.taskState.setSchedule id which s').loops := by
    change after.loops.map _ = t.loops.map _
    rw [loops]
  cases called with
  | none =>
    have refused : t.store.items? (kindOf which) = none := by
      generalize (t.store.call (kindOf which)).1 = met', after.work = work at met
      cases met with
      | declined refused => exact refused
    cases failed with
    | true => exact .declined refused (congrArg (Poller.Stats.fail · which) stats) (put _)
    | false => exact .declined refused stats (put _)
  | some round =>
    have welcome : t.store.items? (kindOf which) ≠ none := by
      generalize (t.store.call (kindOf which)).1 = met', after.work = work at met
      cases met with
      | joined admitted | started admitted =>
        intro refused
        exact absurd (refused.symm.trans admitted) nofun
    exact .admitted welcome stats round (put _)

lemma called_takeNodes (t : Timeline σ) (id : Nat) (s : Poller.Schedule)
    (nodes : Except Api.Error (List String)) :
    ({ t with store := t.store.refreshed nodes } : Timeline σ).Called id .names s (Poller.isFailed nodes)
      (t.takeNodes id s nodes) := by
  unfold takeNodes
  cases nodes with
  | ok nodes => exact called_beginRound _ ..
  | error e =>
    cases called_beginRound (t.note (.warn "Node list refresh failed, keeping previous nodes")) id
      .names s true with
    | declined refused stats loops => exact .declined refused stats loops
    | admitted welcome stats round loops => exact .admitted welcome stats round loops

lemma stats_takeRound (t : Timeline σ) (id : Nat) (which : Poller.Which) (s : Poller.Schedule)
    (round : Nat) (failed : Bool) : (t.takeRound id which s round failed).stats
      = if failed then t.stats.fail which else t.stats := by
  have seen := t.stats_see (kindOf which) round
  unfold takeRound
  generalize t.see (kindOf which) round = look at seen
  obtain ⟨first, after⟩ := look
  replace seen : after.stats = t.stats := seen
  cases first <;> cases failed <;> simp [setSchedule, changeLoop, fail, seen]

lemma loops_takeRound (t : Timeline σ) (id : Nat) (which : Poller.Which) (s : Poller.Schedule)
    (round : Nat) (failed : Bool) : (t.takeRound id which s round failed).loops
      = (t.taskState.setSchedule id which { s with stage := .resting false }).loops := by
  obtain ⟨again, taskState⟩ := taskState_takeRound t id which s round failed
  refine (congrArg TaskState.loops taskState).trans ?_
  cases again <;> rfl

/-! ### Pieces -/

/-- Whether a timeline comes out of another by what is none of the schedules' business, while no
fetch takes a turn and no time passes. Loops may begin, be cancelled or be gone when they have
ended. -/
structure Aside (S : Source σ) (t t' : Timeline σ) : Prop where
  reaches : Reaches S t t'
  now : t'.now = t.now
  stats : t'.stats = t.stats
  errand : ∀ id which, t'.errand id which = t.errand id which
  fetches : ∀ f ∈ t.fetches, f ∈ t'.fetches
  loopCount : t.loopCount ≤ t'.loopCount
  cancels : t'.loopCount = t.loopCount → t.loopState.Cancelled → t'.loopState.Cancelled

/-- What a schedule does when it is its turn, or late. -/
inductive Look (S : Source σ) (t : Timeline σ) (l : Poller.Loop) (which : Poller.Which) :
    Timeline σ → Prop
  | turn {t' : Timeline σ} (turn : Turn S t l which t') : Look S t l which t'
  | late {t' : Timeline σ} (late : Late t l which t') : Look S t l which t'

/-- The pieces of a drift. -/
inductive Piece (S : Source σ) (t : Timeline σ) : Timeline σ → Prop
  | look {t' : Timeline σ} {l : Poller.Loop} {which : Poller.Which} (isThere : l ∈ t.loops)
      (look : Look S t l which t') : Piece S t t'
  | fetch {t' : Timeline σ} {f : Fetch} (isThere : f ∈ t.fetches) (turn : FetchTurn S t f t')
      (reaches : Reaches S t t') : Piece S t t'
  | wait (attentive : Attentive S t) (rest : t.ready = []) {time : Nat}
      (soon : ∀ timer ∈ t.timers, time ≤ timer.due) : Piece S t (t.moveTo time)
  | aside {t' : Timeline σ} (aside : Aside S t t') : Piece S t t'

/-- Whether a piece leads from one sound timeline to another. -/
structure Leads (S : Source σ) (t t' : Timeline σ) : Prop where
  sound : Sound S t
  piece : Piece S t t'
  after : Sound S t'

/-- Pieces one after the other. -/
def Pieces (S : Source σ) : Timeline σ → Timeline σ → Prop := Relation.ReflTransGen (Leads S)

/-- Pieces one after the other, while nobody begins or cancels a loop. -/
def Calm (S : Source σ) : Timeline σ → Timeline σ → Prop :=
  Relation.ReflTransGen fun t t' => Leads S t t' ∧ Meanwhile t.loopState t'.loopState

lemma Calm.pieces (calm : Calm S t t') : Pieces S t t' :=
  Relation.ReflTransGen.mono (fun _ _ h => h.1) _ _ calm

namespace Aside

lemma of_loops (reaches : Reaches S t t') (now : t'.now = t.now) (stats : t'.stats = t.stats)
    (fetches : ∀ f ∈ t.fetches, f ∈ t'.fetches) (loops : t'.loops = t.loops)
    (loopCount : t'.loopCount = t.loopCount) : Aside S t t' := by
  refine ⟨reaches, now, stats, errand_congr loops, fetches, Nat.le_of_eq loopCount.symm,
    fun _ cancelled => ?_⟩
  have tokens : t'.loopState.tokens = t.loopState.tokens :=
    congrArg (List.map Poller.Loop.token) loops
  exact fun k mem => cancelled k (tokens ▸ mem)

lemma of_taskState (reaches : Reaches S t t') (stats : t'.stats = t.stats)
    (taskState : t'.taskState = t.taskState) (loopCount : t'.loopCount = t.loopCount) :
    Aside S t t' := by
  have fetches : t'.fetches = t.fetches := congrArg TaskState.fetches taskState
  exact of_loops reaches (congrArg TaskState.now taskState) stats (fun f mem => fetches ▸ mem)
    (congrArg TaskState.loops taskState) loopCount

lemma of_enters {kind : RoundKind} {round : Nat} (reaches : Reaches S t t')
    (stats : t'.stats = t.stats) (enters : t.taskState.Enters kind round t'.taskState)
    (loopCount : t'.loopCount = t.loopCount) : Aside S t t' := by
  obtain ⟨keeps, loops, -⟩ := enters.keeps
  refine of_loops reaches keeps.now stats (fun f mem => ?_) loops loopCount
  have kept : ∀ g', t.taskState.Enters kind round g' → f ∈ g'.fetches := by
    intro g' enters
    cases enters with
    | joined => exact mem
    | started => exact List.mem_append_left _ mem
  exact kept _ enters

lemma call (sound : Sound S t) (kind : RoundKind) : Aside S t (t.call kind).2 := by
  have loopCount : (t.call kind).2.loopCount = t.loopCount :=
    congrArg LoopState.loopCount (t.loopState_call kind)
  rcases taskState_call sound.isAhead kind with ⟨-, same⟩ | ⟨round, -, enters⟩
  · exact of_taskState (call_reaches S t kind) (t.stats_call kind) same loopCount
  · exact of_enters (call_reaches S t kind) (t.stats_call kind) enters loopCount

lemma popped (rest : List TaskId) : Aside S t { t with ready := rest } :=
  of_loops (.aside rfl) rfl rfl (fun _ mem => mem) rfl rfl

lemma stepCaller (sound : Sound S t) (id : Nat) : Aside S t (t.stepCaller id) := by
  have reaches := stepCaller_reaches S t id
  have loopCount : (t.stepCaller id).loopCount = t.loopCount :=
    congrArg LoopState.loopCount (t.loopState_stepCaller id)
  obtain ⟨same, -⟩ | ⟨c, -, rfl, turn⟩ := taskState_stepCaller sound.isAhead id
  · exact of_taskState reaches (t.stats_stepCaller id) (congrArg taskState same) loopCount
  · have kept (f : Fetch) (mem : f ∈ t.fetches) :
        ∀ g', t.taskState.CallerTurn c g' → f ∈ g'.fetches := by
      intro g' turn
      cases turn with
      | stays | served | declined => exact mem
      | admitted _ enters =>
        cases enters with
        | joined => exact mem
        | started => exact List.mem_append_left _ mem
    exact of_loops reaches turn.same.1 (t.stats_stepCaller c.id)
      (fun f mem => kept f mem _ turn) turn.same.2 loopCount

lemma turned (t : Timeline σ) (id : Nat) : Aside S t (t.turned id) := by
  have loopState : (t.turned id).loopState = t.loopState := t.loopState_changeLoop id fun _ => rfl
  refine ⟨.aside rfl, rfl, rfl, errand_map rfl (fun l => ?_) (fun l which => ?_), fun _ mem => mem,
    Nat.le_refl _, fun _ cancelled => loopState ▸ cancelled⟩
  · split <;> rfl
  · split
    · cases which <;> rfl
    · rfl

lemma swept (sound : Sound S t) (id : Nat) : Aside S t (t.swept id) :=
  ⟨.aside rfl, rfl, rfl, errand_swept sound id, fun _ mem => mem, Nat.le_refl _,
    fun _ cancelled => cancelled.meanwhile ⟨rfl, rfl, List.filter_sublist.map _⟩⟩

lemma starts (starts : t.Starts t') : Aside S t t' := by
  cases starts with
  | not => exact of_loops (.refl t) rfl rfl (fun _ mem => mem) rfl rfl
  | @begins p =>
    let noted := t.note (.info "Starting metrics poller")
    have more : t.loopCount < (noted.beginLoop p).loopCount :=
      loopCount_beginLoop noted p ▸ Nat.lt_succ_self _
    have fetches : (noted.beginLoop p).fetches = t.fetches :=
      congrArg TaskState.fetches (taskState_beginLoop noted p)
    exact ⟨.aside (work_wake _ _), congrArg TaskState.now (taskState_beginLoop noted p),
      stats_wake _ _, errand_beginLoop noted p, fun f mem => fetches ▸ mem, Nat.le_of_lt more,
      fun same => absurd same (Nat.ne_of_gt more)⟩

lemma quits (quits : t.Quits t') : Aside S t t' := by
  cases quits with
  | idle => exact of_loops (.aside rfl) rfl rfl (fun _ mem => mem) rfl rfl
  | cancels n p rest =>
    let noted := t.note n
    have loopState : (noted.cancelLoop p).loopState = t.loopState.cancel p :=
      loopState_cancelLoop noted p
    have tokens : (noted.cancelLoop p).loops.map Poller.Loop.token
      = (t.loopState.cancel p).tokens :=
      congrArg LoopState.tokens loopState
    have loops : (noted.cancelLoop p).loops = t.loops.map fun l =>
        if p.current = some l.id then { l with cancelled := true } else l := by
      cases current : p.current with
      | none => simp [cancelLoop, current, noted, note]
      | some id =>
        refine (congrArg TaskState.loops (taskState_cancelLoop noted current)).trans ?_
        refine List.map_congr_left fun l _ => ?_
        by_cases own : l.id = id
        · simp [own]
        · simp [own, Ne.symm own]
    have fetches : (noted.cancelLoop p).fetches = t.fetches :=
      congrArg Work.fetches (work_cancelLoop noted p)
    have now : (noted.cancelLoop p).now = t.now := by
      cases current : p.current with
      | none => simp [cancelLoop, current, noted, note]
      | some id => exact congrArg TaskState.now (taskState_cancelLoop noted current)
    refine ⟨.aside (work_cancelLoop noted p), now, stats_cancelLoop noted p, fun id which => ?_,
      fun f mem => fetches ▸ mem, Nat.le_of_eq (congrArg LoopState.loopCount loopState).symm,
      fun _ cancelled k mem => ?_⟩
    · exact errand_map loops (fun l => by split <;> rfl)
        (fun l which => by split <;> cases which <;> rfl) id which
    · have mem : k ∈ (t.loopState.cancel p).tokens := tokens ▸ mem
      obtain ⟨k₀, mem₀, rfl⟩ := List.mem_map.mp mem
      split
      · rfl
      · exact cancelled k₀ mem₀

/-- What is done from outside is none of the schedules' business. -/
lemma act (sound : Sound S t) (a : Act) : Aside S t (t.act a) := by
  cases a with
  | call kind => exact call sound kind
  | see kind round =>
    exact of_taskState (.aside (t.work_see kind round)) (t.stats_see kind round)
      (taskState_see t kind round) (congrArg LoopState.loopCount (t.loopState_see kind round))
  | spawn kind =>
    let spawning : Timeline σ :=
      { t with callers := t.callers ++ [⟨t.callers.length, kind, .begun⟩] }
    have taskState := taskState_wake spawning (.caller t.callers.length)
    have fetches : (t.spawn kind).2.fetches = t.fetches := congrArg TaskState.fetches taskState
    exact of_loops (.move (.spawn t kind)) (congrArg TaskState.now taskState)
      (stats_wake spawning _)
      (fun f mem => fetches ▸ mem) (congrArg TaskState.loops taskState)
      (congrArg LoopState.loopCount (loopState_wake spawning _))
  | setGate kind isOpen =>
    have taskState := taskState_setGate t kind isOpen
    have fetches : (t.setGate kind isOpen).fetches = t.fetches :=
      congrArg TaskState.fetches taskState
    exact of_loops (setGate_reaches S t kind isOpen) (congrArg TaskState.now taskState)
      (t.stats_setGate kind isOpen) (fun f mem => fetches ▸ mem)
      (congrArg TaskState.loops taskState)
      (congrArg LoopState.loopCount (loopState_setGate t kind isOpen))
  | abandon id => exact of_loops (.move (.abandon t id)) rfl rfl (fun _ mem => mem) rfl rfl
  | chore c => exact of_loops (.move (.chore t c)) rfl rfl (fun _ mem => mem) rfl rfl
  | releaseStore => exact of_loops (.aside rfl) rfl rfl (fun _ mem => mem) rfl rfl
  | note n => exact of_loops (.aside rfl) rfl rfl (fun _ mem => mem) rfl rfl
  | startPoller => exact starts t.starts_startPoller
  | haltPoller => exact quits t.quits_haltPoller
  | releasePoller => exact quits t.quits_releasePoller

end Aside

namespace Sound

/-- The turns of a schedule are looks of it. -/
lemma calm_spins (h : Sound S t) {id : Nat} (spins : Spins S id which t t') : Calm S t t' := by
  induction spins with
  | refl => exact .refl
  | tail before stepped ih =>
    obtain ⟨l, found, turn⟩ := turn_of_some stepped
    have isThere := (TaskState.mem_of_loop? (g := Timeline.taskState _) found).1
    have sound := h.spins before
    exact ih.tail ⟨⟨sound, .look isThere (.turn turn), (sound.stepSchedule stepped).1⟩,
      .of_eq turn.loopState⟩

/-- A task goes on piece by piece. -/
lemma calm_step (h : Sound S t) (task : TaskId) : Calm S t (t.step S task) := by
  cases task with
  | fetch kind round =>
    obtain ⟨same, -⟩ | ⟨f, isThere, rfl, rfl, turn⟩ := fetchTurn S t kind round
    · rw [Timeline.step, same]
      exact .refl
    · exact .single ⟨⟨h, .fetch isThere turn (stepFetch_reaches S t f.kind f.round),
        h.stepFetch f.kind f.round⟩, .of_eq turn.loopState⟩
  | caller id =>
    exact .single ⟨⟨h, .aside (.stepCaller h id), h.stepCaller id⟩,
      .of_eq (t.loopState_stepCaller id)⟩
  | loop id =>
    obtain ⟨-, same⟩ | ⟨_, _, u, v, -, first, last, stepped, -⟩ := h.stepLoop_spins id
    · rw [Timeline.step, same]
      exact .refl
    · have turned := h.turned id
      have spun := turned.spins first
      have swept := (spun.spins last).swept id
      have calm : Calm S t v :=
        (Relation.ReflTransGen.head ⟨⟨h, .aside (.turned t id), turned⟩,
          .of_eq (t.loopState_changeLoop id fun _ => rfl)⟩ (turned.calm_spins first)).trans
          (spun.calm_spins last)
      rw [Timeline.step, stepped]
      exact calm.tail ⟨⟨spun.spins last, .aside (.swept (spun.spins last) id), swept⟩,
        rfl, rfl, List.filter_sublist.map _⟩

end Sound

lemma Attentive.calm_beat (h : Attentive S t) (beat : Beat S t t') : Calm S t t' := by
  cases beat with
  | go =>
    unfold Timeline.next
    split
    · exact .refl
    next task rest _ =>
      have popped := h.sound.popped rest
      exact .head ⟨⟨h.sound, .aside (.popped rest), popped⟩, .refl _⟩ (popped.calm_step task)
  | wait rest soon =>
    exact .single ⟨⟨h.sound, .wait h rest soon, h.sound.moveTo _⟩, .of_eq (t.loopState_moveTo _)⟩

lemma Attentive.calm_lapse (h : Attentive S t) (lapse : Lapse S t t') : Calm S t t' := by
  induction lapse with
  | refl => exact .refl
  | tail before beat ih => exact ih.trans ((h.lapse before).calm_beat beat)

/-- Timelines drift piece by piece. -/
theorem Drift.pieces (drift : Drift S t t') (attentive : Attentive S t) : Pieces S t t' := by
  induction drift with
  | refl => exact .refl
  | beat before beat ih => exact ih.trans ((before.attentive attentive).calm_beat beat).pieces
  | act before a ih =>
    have attentive := before.attentive attentive
    exact ih.tail ⟨attentive.sound, .aside (.act attentive.sound a), (attentive.act a).sound⟩
  | late before isThere late ih =>
    have sound := (before.attentive attentive).sound
    exact ih.tail ⟨sound, .look isThere (.late late), sound.late isThere late⟩

/-- What every piece keeps is kept when timelines drift. -/
theorem Drift.induction {P : Timeline σ → Prop} (attentive : Attentive S t)
    (piece : ∀ u v, Sound S u → Piece S u v → P u → P v) (drift : Drift S t t') (h : P t) :
    P t' := by
  have pieces := drift.pieces attentive
  clear drift
  induction pieces with
  | refl => exact h
  | tail _ last ih => exact piece _ _ last.sound last.piece ih

end Timeline

end MetricWatch
