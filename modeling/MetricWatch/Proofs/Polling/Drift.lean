import MetricWatch.Proofs.Polling.Course

/-!
# Drifting

A schedule that waits for the nodes or for a round waits for its cancellation as well, and when both
have come nobody says which of them it sees first. So before it stops, a schedule of a loop that was
cancelled may still take what it waited for; only a tick is out of the question, since whoever rests
looks at the cancellation first. Timelines drift when this is left open. Nobody is forgotten on the
way, and the life of the poller is the same. The main statements are `Drift.attentive` and
`Drift.managed`.
-/

namespace MetricWatch.Timeline

variable {σ : Type} {S : Source σ} {t t' t'' : Timeline σ} {l : Poller.Loop} {which : Poller.Which}

/-! ### Late looks -/

/-- The ways in which a schedule of a loop that was cancelled still takes what it waited for. -/
inductive Late (t : Timeline σ) (l : Poller.Loop) (which : Poller.Which) : Timeline σ → Prop
  /-- The nodes are there, and it calls for its round. -/
  | nodes {until_ : Nat} {nodes : Except Api.Error (List String)} (cancelled : l.cancelled = true)
      (refreshing : (l.schedule which).stage = .refreshing until_ nodes) (arrived : until_ ≤ t.now) :
      Late t l which (t.takeNodes l.id (l.schedule which) nodes)
  /-- Its round has ended. -/
  | round {round : Nat} {failed bad : Bool} {notes : List Note} (cancelled : l.cancelled = true)
      (inRound : (l.schedule which).stage = .inRound round failed)
      (judged : t.judge which round = some (bad, notes)) :
      Late t l which
        ((t.noteAll notes).takeRound l.id which (l.schedule which) round (failed || bad))

/-- Beats one after the other, with anything done from outside and late looks between them. -/
inductive Drift (S : Source σ) (t : Timeline σ) : Timeline σ → Prop
  | refl : Drift S t t
  | beat {t' t'' : Timeline σ} (drift : Drift S t t') (beat : Beat S t' t'') : Drift S t t''
  | act {t' : Timeline σ} (drift : Drift S t t') (a : Act) : Drift S t (t'.act a)
  | late {t' t'' : Timeline σ} {l : Poller.Loop} {which : Poller.Which} (drift : Drift S t t')
      (isThere : l ∈ t'.loops) (late : Late t' l which t'') : Drift S t t''

/-- Things that take their course drift. -/
lemma Course.drift (course : Course S t t') : Drift S t t' := by
  induction course with
  | refl => exact .refl
  | beat _ beat ih => exact ih.beat beat
  | act _ a ih => exact ih.act a

lemma Drift.trans (first : Drift S t t') (last : Drift S t' t'') : Drift S t t'' := by
  induction last with
  | refl => exact first
  | beat _ beat ih => exact ih.beat beat
  | act _ a ih => exact ih.act a
  | late _ isThere late ih => exact ih.late isThere late

namespace TaskState

variable {g g' : TaskState}

/-- A schedule that calls for its round is put at another stage. -/
lemma Begins.shifts (h : g.Begins l.id which (l.schedule which) g') :
    ∃ s', g.Shifts l which s' g' := by
  obtain ⟨keeps, timers, stage, next, loops, -⟩ := h.keeps
  refine ⟨{ l.schedule which with stage := stage }, rfl, loops, keeps, ?_, .inl ⟨?_, timers⟩⟩
  · rcases next with rfl | ⟨_, _, rfl⟩ <;> exact nofun
  · rcases next with rfl | ⟨_, _, rfl⟩ <;> rfl

/-- A task is not forgotten where it is ready. -/
lemma Watched.of_ready {task : TaskId} (h : g.Watched (some task)) (ready : task ∈ g.ready) :
    g.Watched none := by
  intro other due
  by_cases own : other = task
  · exact .inr (own ▸ ready)
  · exact .inr (h.ready_of_ne due own)

end TaskState

namespace Late

lemma cancelled (h : Late t l which t') : l.cancelled = true := by
  cases h <;> assumption

lemma running (h : Late t l which t') : (l.schedule which).isStopped = false := by
  cases h with
  | nodes _ refreshing => simp [Poller.Schedule.isStopped, refreshing]
  | round _ inRound => simp [Poller.Schedule.isStopped, inRound]

lemma loopState (h : Late t l which t') : t'.loopState = t.loopState := by
  cases h with
  | nodes => exact loopState_takeNodes ..
  | round => exact (loopState_takeRound ..).trans (loopState_noteAll ..)

lemma reaches (S : Source σ) (h : Late t l which t') : Reaches S t t' := by
  cases h with
  | nodes => exact takeNodes_reaches S t ..
  | round => exact .aside (by rw [work_takeRound, work_noteAll])

/-- A late look puts the schedule at another stage. -/
lemma shifts (ahead : t.IsAhead) (plain : ∀ until_ nodes, l.list.stage ≠ .refreshing until_ nodes)
    (h : Late t l which t') : ∃ s', t.taskState.Shifts l which s' t'.taskState := by
  cases h with
  | nodes _ refreshing =>
    cases which with
    | list => exact absurd refreshing (plain _ _)
    | names => exact (taskState_takeNodes ahead l.id (l.schedule .names) _).shifts
  | @round round failed bad notes =>
    obtain ⟨again, same⟩ :=
      taskState_takeRound (t.noteAll notes) l.id which (l.schedule which) round
      (failed || bad)
    rw [same, taskState_noteAll]
    refine ⟨{ l.schedule which with stage := .resting false }, rfl, ?_, ?_, nofun, .inl ⟨rfl, ?_⟩⟩
    · cases again <;> rfl
    · cases again with
      | true => exact (TaskState.Keeps.wake t.taskState _).withLoops _ _
      | false => exact (TaskState.Keeps.refl t.taskState).withLoops _ _
    · cases again <;> rfl

end Late

lemma Sound.late (h : Sound S t) (isThere : l ∈ t.loops) (late : Late t l which t') :
    Sound S t' := by
  obtain ⟨s', shifts⟩ := late.shifts h.isAhead (h.fit.plain l isThere)
  exact h.of_reaches (late.reaches S) (h.fit.shifts (h.fit.loop?_of_mem isThere) shifts)
    (.of_eq late.loopState)

/-- A loop that was cancelled and has not ended is ready to stop, so nobody is forgotten if it looks
late. -/
lemma Attentive.late (h : Attentive S t) (isThere : l ∈ t.loops) (late : Late t l which t') :
    Attentive S t' := by
  obtain ⟨s', shifts⟩ := late.shifts h.sound.isAhead (h.sound.fit.plain l isThere)
  have restless : ¬ t.taskState.AtEase l := by
    rintro ⟨-, idle⟩
    cases idle which with
    | stopped isStopped =>
      rw [late.running] at isStopped
      cases isStopped
    | resting live | refreshing live | inRound live =>
      rw [late.cancelled] at live
      cases live
  have ready : .loop l.id ∈ t.taskState.ready := h.watched.ready (.loop isThere restless)
  have watched : t.taskState.Watched (some (.loop l.id)) := fun task due =>
    .inr (h.watched.ready due)
  exact ⟨h.sound.late isThere late,
    (watched.shifts h.sound.fit isThere shifts).of_ready (shifts.keeps.ready ready),
    h.timed.shifts h.sound.fit isThere shifts⟩

/-- Nobody is forgotten when timelines drift. -/
theorem Drift.attentive (drift : Drift S t t') (h : Attentive S t) : Attentive S t' := by
  induction drift with
  | refl => exact h
  | beat _ beat ih => exact ih.beat beat
  | act _ a ih => exact ih.act a
  | late _ isThere late ih => exact ih.late isThere late

/-! ### The life of the poller -/

lemma Beat.meanwhile (beat : Beat S t t') : Meanwhile t.loopState t'.loopState := by
  cases beat with
  | go => exact next_meanwhile S t
  | wait => exact .of_eq (loopState_moveTo t _)

/-- Of all that is done from outside only starts, stops and drops of the poller change the state of the
loops. -/
lemma loopState_act (t : Timeline σ) (a : Act) : (t.act a).loopState = t.loopState ∨
    a = .startPoller ∨ a = .haltPoller ∨ a = .releasePoller := by
  cases a with
  | call kind => exact .inl (t.loopState_call kind)
  | see kind round => exact .inl (t.loopState_see kind round)
  | spawn kind =>
    exact .inl
      (loopState_wake { t with callers := t.callers ++ [⟨t.callers.length, kind, .begun⟩] } _)
  | setGate kind isOpen => exact .inl (loopState_setGate t kind isOpen)
  | abandon | chore | releaseStore | note => exact .inl rfl
  | startPoller => exact .inr (.inl rfl)
  | haltPoller => exact .inr (.inr (.inl rfl))
  | releasePoller => exact .inr (.inr (.inr rfl))

lemma Managed.act (managed : Managed t) (a : Act) : Managed (t.act a) := by
  rcases t.loopState_act a with same | rfl | rfl | rfl
  · exact managed.meanwhile (.of_eq same)
  · exact managed.start
  · exact managed.stop
  · exact managed.drop

/-- However timelines drift, a poller lives as all pollers do. -/
theorem Drift.managed (drift : Drift S t t') (managed : Managed t) : Managed t' := by
  induction drift with
  | refl => exact managed
  | beat _ beat ih => exact ih.meanwhile beat.meanwhile
  | act _ a ih => exact ih.act a
  | late _ _ late ih => exact ih.meanwhile (.of_eq late.loopState)

/-- Numbers of loops are not taken back. -/
lemma Drift.loopCount_le (drift : Drift S t t') : t.loopCount ≤ t'.loopCount := by
  induction drift with
  | refl => exact Nat.le_refl _
  | beat _ beat ih => exact ih.trans (Nat.le_of_eq beat.meanwhile.loopCount.symm)
  | @act u _ a ih => exact ih.trans (u.loopCount_le_act a)
  | late _ _ late ih =>
    exact ih.trans (Nat.le_of_eq (congrArg LoopState.loopCount late.loopState).symm)

end MetricWatch.Timeline
