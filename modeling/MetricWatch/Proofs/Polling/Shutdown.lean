import MetricWatch.Proofs.Polling.Queue
import MetricWatch.Proofs.Polling.Running

/-!
# After a shutdown

Where all loops are cancelled none ticks, and an errand can only come back, once. Since of all loops
only one is out on errands, no more than one failure is counted for each schedule, and none once the
loop that was cancelled last is gone. The main statements are `Drift.shuttingDown_of`,
`Drift.counts_nothing` and `Drift.isLast`.
-/

namespace MetricWatch.Timeline

variable {σ : Type} {S : Source σ} {t t₁ t' u v : Timeline σ} {l : Poller.Loop}
  {which : Poller.Which} {id : Nat}

/-! ### One piece -/

/-- What a piece may do where all loops are cancelled: nothing to statistics and errands, or an
errand goes on or comes back, and only one that comes back may be counted as a failure. -/
inductive ShutdownStep (t t' : Timeline σ) : Prop
  | rests (stats : t'.stats = t.stats)
      (errand : ∀ id which, t'.errand id which = t.errand id which)
  | goes (id : Nat) (which : Poller.Which) (out : t.errand id which ≠ none)
      (stats : t'.stats = t.stats ∨ t'.stats = t.stats.fail which ∧ t'.errand id which = none)
      (others : ∀ other which', ¬ (other = id ∧ which' = which) →
        t'.errand other which' = t.errand other which')

/-- A schedule that is put at another stage comes back from its errand, or goes on with it. -/
lemma ShutdownStep.of_setSchedule (sound : Sound S t) (isThere : l ∈ t.loops) {s : Poller.Schedule}
    (loops : t'.loops = (t.taskState.setSchedule l.id which s).loops)
    (out : (l.schedule which).stage.errand? ≠ none)
    (stats : t'.stats = t.stats ∨ t'.stats = t.stats.fail which ∧ s.stage.errand? = none) :
    ShutdownStep t t' := by
  have errand := errand_setSchedule (t := t) sound.fit isThere loops
  refine .goes l.id which ?_ ?_ fun other which' distinct => ?_
  · rw [errand_of_mem sound.fit isThere]
    exact out
  · rw [errand, if_pos ⟨rfl, rfl⟩]
    exact stats
  · rw [errand, if_neg distinct]

lemma Late.shutdownStep (sound : Sound S t) (isThere : l ∈ t.loops) (late : Late t l which t') :
    ShutdownStep t t' := by
  cases late with
  | @nodes until_ nodes _ refreshing =>
    cases which with
    | list => exact absurd refreshing (sound.fit.plain l isThere _ _)
    | names =>
      have out : (l.schedule .names).stage.errand? ≠ none := by
        rw [refreshing]
        exact nofun
      cases called_takeNodes t l.id (l.schedule .names) nodes with
      | declined _ stats loops =>
        refine .of_setSchedule sound isThere loops out ?_
        cases failed : Poller.isFailed nodes with
        | true =>
          rw [failed] at stats
          exact .inr ⟨stats, rfl⟩
        | false =>
          rw [failed] at stats
          exact .inl stats
      | admitted _ stats _ loops => exact .of_setSchedule sound isThere loops out (.inl stats)
  | @round round failed bad notes _ inRound =>
    have out : (l.schedule which).stage.errand? ≠ none := by
      rw [inRound]
      exact nofun
    have loops := loops_takeRound (t.noteAll notes) l.id which (l.schedule which) round
      (failed || bad)
    rw [taskState_noteAll] at loops
    refine .of_setSchedule sound isThere loops out ?_
    rw [stats_takeRound, stats_noteAll]
    cases failed || bad with
    | true => exact .inr ⟨rfl, rfl⟩
    | false => exact .inl rfl

/-- A loop that was cancelled can only stop or look late. -/
lemma Look.shutdownStep (sound : Sound S t) (isThere : l ∈ t.loops) (cancelled : l.cancelled = true)
    (look : Look S t l which t') : ShutdownStep t t' := by
  cases look with
  | turn turn =>
    cases turn with
    | stops =>
      by_cases out : (l.schedule which).stage.errand? = none
      · refine .rests rfl fun id other => ?_
        rw [errand_setSchedule (t := t) sound.fit isThere rfl]
        split
        next own =>
          obtain ⟨rfl, rfl⟩ := own
          rw [errand_of_mem sound.fit isThere, out]
          rfl
        next => rfl
      · exact .of_setSchedule sound isThere rfl out (.inl rfl)
    | ticks live | arms live | takesNodes live | takesRound live =>
      rw [cancelled] at live
      cases live
  | late late => exact late.shutdownStep sound isThere

lemma Look.loopState (look : Look S t l which t') : t'.loopState = t.loopState := by
  cases look with
  | turn turn => exact turn.loopState
  | late late => exact late.loopState

lemma Piece.loopCount_le (piece : Piece S t t') : t.loopCount ≤ t'.loopCount := by
  cases piece with
  | look _ look => exact Nat.le_of_eq (congrArg LoopState.loopCount look.loopState).symm
  | fetch _ turn => exact Nat.le_of_eq (congrArg LoopState.loopCount turn.loopState).symm
  | wait => exact Nat.le_of_eq (congrArg LoopState.loopCount (t.loopState_moveTo _)).symm
  | aside aside => exact aside.loopCount

/-- Where all loops are cancelled, they are until another one begins, and each piece is a step of the
shutdown. -/
lemma Piece.shutdownStep (sound : Sound S t) (cancelled : t.loopState.Cancelled)
    (piece : Piece S t t') (same : t'.loopCount = t.loopCount) :
    t'.loopState.Cancelled ∧ ShutdownStep t t' := by
  have still (same : t'.loopState = t.loopState) : t'.loopState.Cancelled := same ▸ cancelled
  cases piece with
  | look isThere look =>
    exact ⟨still look.loopState, look.shutdownStep sound isThere (cancelled _ (mem_tokens isThere))⟩
  | fetch isThere turn =>
    have taskState := (turn.taskState fun _ => sound.ofKind isThere).same
    exact ⟨still turn.loopState, .rests turn.stats (errand_congr taskState.2)⟩
  | wait =>
    exact ⟨still (t.loopState_moveTo _),
      .rests (t.stats_moveTo _) (errand_congr (t.loops_moveTo _))⟩
  | aside aside => exact ⟨aside.cancels same cancelled, .rests aside.stats aside.errand⟩

/-! ### Any number of pieces -/

/-- What has happened to statistics and errands since all loops were cancelled, one of which was out
on errands. -/
structure ShuttingDown (t : Timeline σ) (id : Nat) (t' : Timeline σ) : Prop where
  cancelled : t'.loopState.Cancelled
  ticks : ∀ which, t'.stats.ticks which = t.stats.ticks which
  failures : ∀ which, t'.stats.failures which = t.stats.failures which ∨
    t'.stats.failures which = t.stats.failures which + 1 ∧ t'.errand id which = none
  others : ∀ other which, other ≠ id → t'.errand other which = none

namespace ShuttingDown

lemma refl (cancelled : t.loopState.Cancelled)
    (others : ∀ other which, other ≠ id → t.errand other which = none) : ShuttingDown t id t :=
  ⟨cancelled, fun _ => rfl, fun _ => .inl rfl, others⟩

lemma step (h : ShuttingDown t id u) (cancelled : v.loopState.Cancelled) (step : ShutdownStep u v) :
    ShuttingDown t id v := by
  cases step with
  | rests stats errand =>
    exact ⟨cancelled, fun which => by rw [stats]; exact h.ticks which,
      fun which => by rw [stats, errand]; exact h.failures which,
      fun other which distinct => by rw [errand]; exact h.others other which distinct⟩
  | goes id' which out stats others =>
    obtain rfl : id' = id := by
      by_contra other
      exact out (h.others id' which other)
    -- The errand was still to come back, so its failure had not been counted.
    have uncounted := (h.failures which).resolve_right fun counted => out counted.2
    refine ⟨cancelled, fun which' => ?_, fun which' => ?_, fun other which' distinct => ?_⟩
    · rw [← h.ticks which']
      rcases stats with same | ⟨failed, -⟩
      · rw [same]
      · rw [failed, Poller.Stats.ticks_fail]
    · rcases stats with same | ⟨failed, back⟩
      · rw [same]
        by_cases own : which' = which
        · exact .inl (own ▸ uncounted)
        · rw [others id' which' fun both => own both.2]
          exact h.failures which'
      · rw [failed, Poller.Stats.failures_fail]
        by_cases own : which' = which
        · subst own
          rw [if_pos rfl, uncounted]
          exact .inr ⟨rfl, back⟩
        · rw [if_neg (Ne.symm own), others id' which' fun both => own both.2]
          exact h.failures which'
    · rw [others other which' fun both => distinct both.1]
      exact h.others other which' distinct

end ShuttingDown

/-- Until another loop begins, the shutdown goes on. -/
lemma Drift.shuttingDown_of (drift : Drift S t t') (attentive : Attentive S t)
    (same : t'.loopCount = t.loopCount) (h : ShuttingDown t id t) : ShuttingDown t id t' := by
  refine (drift.induction attentive
    (P := fun u => t.loopCount ≤ u.loopCount ∧ (u.loopCount = t.loopCount → ShuttingDown t id u))
    (fun u v sound piece kept => ?_) ⟨Nat.le_refl _, fun _ => h⟩).2 same
  obtain ⟨least, shuttingDown⟩ := kept
  have more := piece.loopCount_le
  refine ⟨least.trans more, fun same => ?_⟩
  have shuttingDown := shuttingDown (by omega)
  obtain ⟨cancelled, step⟩ := piece.shutdownStep sound shuttingDown.cancelled (by omega)
  exact shuttingDown.step cancelled step

/-- Where all loops are cancelled and without errands, nothing is counted until another one
begins. -/
lemma Drift.counts_nothing (drift : Drift S t t') (attentive : Attentive S t)
    (same : t'.loopCount = t.loopCount) (cancelled : t.loopState.Cancelled)
    (idle : ∀ id which, t.errand id which = none) : t'.stats = t.stats := by
  refine ((drift.induction attentive
    (P := fun u => t.loopCount ≤ u.loopCount ∧ (u.loopCount = t.loopCount →
      u.loopState.Cancelled ∧ u.stats = t.stats ∧ ∀ id which, u.errand id which = none))
    (fun u v sound piece kept => ?_) ⟨Nat.le_refl _, fun _ => ⟨cancelled, rfl, idle⟩⟩).2 same).2.1
  obtain ⟨least, kept⟩ := kept
  have more := piece.loopCount_le
  refine ⟨least.trans more, fun same => ?_⟩
  obtain ⟨cancelled, stats, idle⟩ := kept (by omega)
  obtain ⟨cancelled, step⟩ := piece.shutdownStep sound cancelled (by omega)
  cases step with
  | rests stats' errand =>
    exact ⟨cancelled, stats'.trans stats, fun id which => (errand id which).trans (idle id which)⟩
  | goes _ _ out => exact absurd (idle _ _) out

/-! ### The last loop -/

/-- The numbers of the loops that have not ended. -/
def ids (t : Timeline σ) : List Nat := t.loops.map Poller.Loop.id

lemma ids_of_tokens (tokens : t'.loopState.tokens.map Poller.Token.id
    = t.loopState.tokens.map Poller.Token.id) : t'.ids = t.ids := by
  simp only [Timeline.loopState, List.map_map] at tokens
  exact tokens

lemma ids_loopState (same : t'.loopState = t.loopState) : t'.ids = t.ids :=
  ids_of_tokens (by rw [same])

/-- Whether a number is that of the loop begun last, unless all have ended. -/
structure IsLast (ids : List Nat) (id : Nat) : Prop where
  least : ∀ other ∈ ids, other ≤ id
  left : ids = [] ∨ id ∈ ids

/-- A loop that was not cancelled is the last in line. -/
lemma Queued.isLast (queued : Queued t) (isThere : l ∈ t.loops) (live : l.cancelled = false) :
    IsLast t.ids l.id := by
  refine ⟨List.forall_mem_map.mpr fun l' isThere' => ?_, .inr (List.mem_map_of_mem isThere)⟩
  by_cases same : l' = l
  · exact Nat.le_of_eq (congrArg Poller.Loop.id same)
  · rcases queued.lined.either isThere' isThere same with inLine | inLine
    · exact Nat.le_of_lt inLine.less
    · have cancelled := inLine.cancelled
      rw [live] at cancelled
      cases cancelled

lemma loopState_spins (spins : Spins S id which t t') : t'.loopState = t.loopState := by
  induction spins with
  | refl => rfl
  | tail _ stepped ih =>
    obtain ⟨_, -, turn⟩ := turn_of_some stepped
    exact turn.loopState.trans ih

/-- When it is the turn of the last loop, there is none before it in line and none behind it. -/
lemma IsLast.of_head (h : IsLast t.ids id) (queued : Queued t)
    (head : t.ready.head? = some (.loop id)) : ∀ other ∈ t.ids, other = id := by
  obtain ⟨rest, isReady⟩ := List.head?_eq_some_iff.mp head
  refine List.forall_mem_map.mpr fun l isThere => ?_
  rcases h.left with none | last
  · exact absurd (List.mem_map_of_mem isThere) (none ▸ List.not_mem_nil)
  · obtain ⟨l', isThere', rfl⟩ := List.mem_map.mp last
    by_cases same : l = l'
    · exact congrArg Poller.Loop.id same
    · rcases queued.lined.either isThere isThere' same with inLine | inLine
      · have before := inLine.before.resolve_left nofun
        rw [show t.taskState.ready = _ from isReady] at before
        exact absurd rfl before.popped.1
      · exact absurd inLine.less (Nat.not_lt_of_le (h.least _ (List.mem_map_of_mem isThere)))

/-- The last loop is gone only when it has gone on, and by then all others are. -/
lemma IsLast.next (h : IsLast t.ids id) (sound : Sound S t) (queued : Queued t) :
    IsLast (t.next S).ids id := by
  cases isReady : t.ready with
  | nil =>
    rw [Timeline.next, isReady]
    exact h
  | cons task rest =>
    rw [Timeline.next, isReady]
    let popped : Timeline σ := { t with ready := rest }
    have same {u : Timeline σ} (loopState : u.loopState = popped.loopState) : IsLast u.ids id := by
      rw [ids_loopState loopState]
      exact h
    have sound : Sound S popped := sound.popped rest
    cases task with
    | fetch kind round => exact same (loopState_stepFetch ..)
    | caller id' => exact same (loopState_stepCaller ..)
    | loop id' =>
      change IsLast (popped.stepLoop S id').ids id
      obtain ⟨-, absent⟩ | ⟨_, _, u, v, -, first, last, stepped, l, found, -⟩ :=
        sound.stepLoop_spins id'
      · rw [absent]
        exact h
      · have loopState : v.loopState = popped.loopState :=
          ((loopState_spins last).trans (loopState_spins first)).trans
            (popped.loopState_changeLoop id' fun _ => rfl)
        have isLast : IsLast v.ids id := same loopState
        have fewer : (v.swept id').ids.Sublist v.ids := List.filter_sublist.map _
        rw [stepped]
        refine ⟨fun other mem => isLast.least other (fewer.mem mem), ?_⟩
        rcases isLast.left with none | isThere
        · exact .inl (List.sublist_nil.mp (none ▸ fewer))
        · by_cases own : id' = id
          · subst own
            have only := h.of_head queued (isReady ▸ rfl : t.ready.head? = some (.loop id'))
            rw [← ids_loopState (t := t) loopState] at only
            cases ids : (v.swept id').ids with
            | nil => exact .inl rfl
            | cons first others =>
              have mem : first ∈ (v.swept id').ids := ids ▸ List.mem_cons_self
              rw [only first (fewer.mem mem)]
              exact .inr List.mem_cons_self
          · refine .inr ?_
            obtain ⟨l', mem, isId⟩ := List.mem_map.mp isThere
            exact List.mem_map.mpr ⟨l', List.mem_filter.mpr ⟨mem, by simp [isId, Ne.symm own]⟩, isId⟩

/-- Once the loop that was begun last is gone, there are no loops. -/
lemma IsLast.loops_eq_nil (h : IsLast t.ids id) (sound : Sound S t) (gone : t.loop? id = none) :
    t.loops = [] := by
  rcases h.left with none | left
  · exact List.map_eq_nil_iff.mp none
  · obtain ⟨l, isThere, own⟩ := List.mem_map.mp left
    rw [← own, show t.loop? l.id = some l from sound.fit.loop?_of_mem isThere] at gone
    cases gone

lemma ids_halts (halts : LoopState.Halts t.loopState t'.loopState) : t'.ids = t.ids := by
  refine ids_of_tokens ?_
  rcases halts.tokens with ⟨-, same⟩ | ⟨p, -, same⟩
  · rw [same]
  · rw [same, LoopState.ids_cancel]

/-- Nothing that is done from outside ends a loop. -/
lemma ids_act (t : Timeline σ) (a : Act) (same : (t.act a).loopCount = t.loopCount) :
    (t.act a).ids = t.ids := by
  rcases t.loopState_act a with still | rfl | rfl | rfl
  · exact ids_loopState still
  · change t.startPoller.2.loopCount = t.loopCount at same
    change t.startPoller.2.ids = t.ids
    have starts := t.starts_startPoller
    generalize t.startPoller.2 = t' at starts same
    cases starts with
    | not => rfl
    | begins =>
      rw [loopCount_beginLoop] at same
      exact absurd same (Nat.succ_ne_self _)
  · exact ids_halts t.halts_haltPoller
  · exact ids_halts t.halts_releasePoller

lemma Drift.isLast (drift : Drift S t t') (attentive : Attentive S t) (managed : Managed t)
    (queued : Queued t) (same : t'.loopCount = t.loopCount) (h : IsLast t.ids id) :
    IsLast t'.ids id := by
  induction drift with
  | refl => exact h
  | beat before beat ih =>
    have last := ih (beat.meanwhile.loopCount.symm.trans same)
    cases beat with
    | go => exact last.next (before.attentive attentive).sound (before.queued attentive managed queued)
    | wait =>
      rw [ids_loopState (loopState_moveTo _ _)]
      exact last
  | @act u before a ih =>
    have least := before.loopCount_le
    have more := u.loopCount_le_act a
    rw [ids_act u a (by omega)]
    exact ih (by omega)
  | late before isThere late ih =>
    rw [ids_loopState late.loopState]
    exact ih ((congrArg LoopState.loopCount late.loopState).symm.trans same)

end MetricWatch.Timeline
