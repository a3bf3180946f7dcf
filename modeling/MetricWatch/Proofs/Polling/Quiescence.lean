import MetricWatch.Proofs.Polling.Outstanding
import MetricWatch.Proofs.Polling.Shutdown

/-!
# Quiescence

When a poller is stopped or given up, its loop is cancelled wherever its schedules are, and winds
down in its own time. Until another start nothing ticks any more, each schedule counts at most the
failure that it was about to see, and once the loop is gone nothing is counted at all. Fetches that
are outstanding have nothing to do with that: they go on to their ends, and the store takes what they
bring, whether the poller was stopped or not. The main statement is `Drift.quiescent`.
-/

namespace MetricWatch.Timeline

variable {σ : Type} {S : Source σ} {t t₀ t₁ t' u : Timeline σ} {id : Nat}

/-! ### Starts on the way -/

/-- Whether a start of the poller succeeds on the way from one timeline to another. -/
def Restarted (S : Source σ) (t t' : Timeline σ) : Prop :=
  ∃ u, Drift S t u ∧ u.startPoller.1 = .ok () ∧ Drift S u.startPoller.2 t'

/-- A loop begins only where a start of the poller succeeds. -/
lemma restarted_of_act (drift : Drift S t u) {a : Act}
    (more : (u.act a).loopCount ≠ u.loopCount) : Restarted S t (u.act a) := by
  rcases u.loopState_act a with same | rfl | rfl | rfl
  · exact absurd (congrArg LoopState.loopCount same) more
  · refine ⟨u, drift, ?_, .refl⟩
    cases running : u.isRunning with
    | true =>
      have refused : u.act .startPoller = u := congrArg Prod.snd (startPoller_of_running running)
      exact absurd (congrArg Timeline.loopCount refused) more
    | false =>
      cases poller : u.poller with
      | none =>
        have refused : u.act .startPoller = u := startPoller_of_absent poller
        exact absurd (congrArg Timeline.loopCount refused) more
      | some p => rw [startPoller_of_idle poller running]
  · exact absurd u.quits_haltPoller.loopCount more
  · exact absurd u.quits_releasePoller.loopCount more

/-- Loops are counted as they begin, so it can be told whether a start has succeeded. -/
lemma Drift.restarted_iff (drift : Drift S t t') :
    Restarted S t t' ↔ t'.loopCount ≠ t.loopCount := by
  constructor
  · rintro ⟨u, before, ok, after⟩
    have least := before.loopCount_le
    have last := after.loopCount_le
    have begun : u.startPoller.2.loopCount = u.loopCount + 1 := by
      cases running : u.isRunning with
      | true =>
        rw [startPoller_of_running running] at ok
        cases ok
      | false =>
        cases poller : u.poller with
        | none => simp [startPoller, poller] at ok
        | some p =>
          rw [startPoller_of_idle poller running]
          exact loopCount_beginLoop _ p
    omega
  · intro more
    induction drift with
    | refl => exact absurd rfl more
    | beat _ beat ih =>
      obtain ⟨u, before, ok, after⟩ := ih fun same => more (beat.meanwhile.loopCount.trans same)
      exact ⟨u, before, ok, after.beat beat⟩
    | @act v drift a ih =>
      by_cases same : (v.act a).loopCount = v.loopCount
      · obtain ⟨u, before, ok, after⟩ := ih (same ▸ more)
        exact ⟨u, before, ok, after.act a⟩
      · exact restarted_of_act drift same
    | late _ isThere late ih =>
      have still := congrArg LoopState.loopCount late.loopState
      obtain ⟨u, before, ok, after⟩ := ih fun same => more (still.trans same)
      exact ⟨u, before, ok, after.late isThere late⟩

lemma Drift.loopCount_eq (drift : Drift S t t') (still : ¬ Restarted S t t') :
    t'.loopCount = t.loopCount := by
  by_contra more
  exact still (drift.restarted_iff.mpr more)

/-! ### Stops and drops -/

/-- What a stop or a drop of the poller leaves as it is. -/
lemma Quits.agrees (S : Source σ) (quits : t.Quits t') : Agrees t t' := by
  have aside : Aside S t t' := .quits quits
  refine ⟨aside.now, aside.fetches, ?_⟩
  cases quits with
  | idle => rfl
  | cancels n p =>
    have work : ((t.note n).cancelLoop p).work = t.work := work_cancelLoop _ p
    exact congrArg (fun w : Work => w.store.listing) work

/-- A round whose answers were on their way brings what they make of what was known. -/
lemma Fate.result_eq {f : Fetch} {g : Gathered} {until_ : Nat} {result : CallResult}
    (fate : Fate S t₀ t f t') (sound : Sound S t') (stage : f.stage = .waiting g until_)
    (brings : t'.result? f.kind f.round = some result) :
    result = ending t₀.store f.round (max t₀.now until_) g := by
  cases fate with
  | @underway stage' isThere =>
    have pending : t'.result? f.kind f.round = none :=
      sound.fit.pending ⟨f.kind, f.round, stage'⟩ isThere
    rw [pending] at brings
    cases brings
  | ended _ _ arrives _ _ ended =>
    obtain ⟨rfl, now⟩ := arrives.settled stage
    rw [← now]
    exact Option.some.inj (brings.symm.trans ended)

/-- Of all loops at most one is out on errands. -/
lemma Queued.exists_alone (queued : Queued t) (sound : Sound S t) :
    ∃ id, ∀ other which, other ≠ id → t.errand other which = none := by
  by_cases any : ∃ id which, t.errand id which ≠ none
  · obtain ⟨id, which, out⟩ := any
    refine ⟨id, fun other which' distinct => ?_⟩
    by_contra out'
    obtain ⟨l, isThere, rfl⟩ := mem_of_errand out
    obtain ⟨l', isThere', rfl⟩ := mem_of_errand out'
    rw [errand_of_mem sound.fit isThere] at out
    rw [errand_of_mem sound.fit isThere'] at out'
    exact distinct (congrArg Poller.Loop.id (queued.lined.alone isThere' isThere out' out))
  · refine ⟨0, fun other which _ => ?_⟩
    by_contra out
    exact any ⟨other, which, out⟩

/-- A loop that is waited for has not been cancelled. -/
lemma Managed.running_loop (managed : Managed t) (running : t.isRunning = true) :
    ∃ l ∈ t.loops, t.poller.bind Poller.handle = some l.id ∧ l.cancelled = false := by
  unfold isRunning at running
  split at running
  next id handle =>
    obtain ⟨l, found⟩ := Option.isSome_iff_exists.mp running
    obtain ⟨isThere, rfl⟩ := TaskState.mem_of_loop? (g := t.taskState) found
    obtain ⟨p, poller, isHandle⟩ := Option.bind_eq_some_iff.mp handle
    exact ⟨l, isThere, handle, managed.handleLive p poller l.token (mem_tokens isThere) isHandle⟩
  next => cases running

/-! ### What is left -/

/-- What is left to happen when a poller that was running at one timeline has been stopped or given
up at the next. -/
structure Quiescent (S : Source σ) (t₀ t₁ : Timeline σ) : Prop where
  /-- Nothing ticks until a start succeeds. -/
  ticks : ∀ t', Drift S t₁ t' → ¬ Restarted S t₁ t' →
    ∀ which, t'.stats.ticks which = t₀.stats.ticks which
  /-- Each schedule counts at most one failure more. -/
  failures : ∀ t', Drift S t₁ t' → ¬ Restarted S t₁ t' → ∀ which,
    t₀.stats.failures which ≤ t'.stats.failures which ∧
      t'.stats.failures which ≤ t₀.stats.failures which + 1
  /-- Once the loop that was running is gone, none is left and nothing is counted. -/
  gone : ∀ id, t₀.poller.bind Poller.handle = some id → ∀ t', Drift S t₁ t' →
    ¬ Restarted S t₁ t' → t'.loop? id = none →
      t'.loops = [] ∧ ∀ t'', Drift S t' t'' → ¬ Restarted S t' t'' → t''.stats = t'.stats
  /-- A fetch that was outstanding goes on as where the poller is not stopped. -/
  fate : ∀ f ∈ t₀.fetches, ∀ t', (Drift S t₀ t' → Fate S t₀ t₀ f t') ∧
    (Drift S t₁ t' → Fate S t₀ t₁ f t')
  /-- If its answers were on their way, its round brings what they make of what was known, in both
  cases. -/
  alike : ∀ f ∈ t₀.fetches, ∀ g until_, f.stage = .waiting g until_ → ∀ t',
    Drift S t₀ t' ∨ Drift S t₁ t' → ∀ result, t'.result? f.kind f.round = some result →
      result = ending t₀.store f.round (max t₀.now until_) g
  /-- Its round comes to its end, once its answers are not held back. -/
  ends : ∀ f ∈ t₀.fetches, ∀ t', Drift S t₁ t' → t'.isOpen f.kind = true →
    ∃ u, Lapse S t' u ∧ u.result? f.kind f.round ≠ none

/-- However a poller that is running is stopped or given up, the rest winds down. -/
lemma Quits.shutsDown (quits : t₀.Quits t₁) (halts : LoopState.Halts t₀.loopState t₁.loopState)
    (drift : Drift S t₀ t₁) (attentive : Attentive S t₀) (managed : Managed t₀)
    (queued : Queued t₀) (running : t₀.isRunning = true) : Quiescent S t₀ t₁ := by
  have aside : Aside S t₀ t₁ := .quits quits
  have agrees : Agrees t₀ t₁ := quits.agrees S
  have attentive₁ := drift.attentive attentive
  have managed₁ := drift.managed managed
  have queued₁ := drift.queued attentive managed queued
  have cancelled : t₁.loopState.Cancelled := (managed.owned.halts halts).1
  -- One loop may still be out on an errand, and one was begun last.
  obtain ⟨id₀, others⟩ := queued₁.exists_alone attentive₁.sound
  obtain ⟨l, isThere, handle, live⟩ := managed.running_loop running
  have last : IsLast t₁.ids l.id := by
    rw [ids_halts halts]
    exact queued.isLast isThere live
  have shuttingDown (t' : Timeline σ) (after : Drift S t₁ t') (still : ¬ Restarted S t₁ t') :
      ShuttingDown t₁ id₀ t' :=
    after.shuttingDown_of attentive₁ (after.loopCount_eq still) (.refl cancelled others)
  refine ⟨fun t' after still which => ?_, fun t' after still which => ?_,
    fun id isHandle t' after still ended => ?_, fun f isThere t' => ?_,
    fun f isThere g until_ stage t' drift result brings => ?_,
    fun f isThere t' after isOpen => ?_⟩
  · rw [(shuttingDown t' after still).ticks which, aside.stats]
  · rw [← aside.stats]
    rcases (shuttingDown t' after still).failures which with same | ⟨more, -⟩ <;> omega
  · obtain rfl : l.id = id := Option.some.inj (handle.symm.trans isHandle)
    have same := after.loopCount_eq still
    have none : t'.loops = [] := (after.isLast attentive₁ managed₁ queued₁ same last).loops_eq_nil
      (after.attentive attentive₁).sound ended
    refine ⟨none, fun t'' later still' => ?_⟩
    refine later.counts_nothing (after.attentive attentive₁) (later.loopCount_eq still')
      (shuttingDown t' after still).cancelled fun id which => ?_
    by_contra out
    obtain ⟨l', isThere', -⟩ := mem_of_errand out
    rw [none] at isThere'
    cases isThere'
  · exact ⟨fun before => before.fate attentive (.refl t₀) isThere,
      fun after => after.fate attentive₁ agrees isThere⟩
  · rcases drift with before | after
    · exact (before.fate attentive (.refl t₀) isThere).result_eq
        (before.attentive attentive).sound stage brings
    · exact (after.fate attentive₁ agrees isThere).result_eq
        (after.attentive attentive₁).sound stage brings
  · cases after.fate attentive₁ agrees isThere with
    | ended _ _ _ _ _ result => exact ⟨t', .refl, by rw [result]; exact nofun⟩
    | @underway stage isThere' =>
      exact (after.attentive attentive₁).ends (f := ⟨f.kind, f.round, stage⟩) isThere' isOpen

end MetricWatch.Timeline
