import MetricWatch.Proofs.Rounds.AtRest

/-!
# Turns

The ways in which a fetch and a schedule go on when it is their turn, and when they cannot. Whatever
is said of the polling of a timeline is read off these cases.
-/

namespace MetricWatch.Timeline

variable {σ : Type} {S : Source σ} {t t' : Timeline σ}

/-! ### Fetches -/

/-- The timeline after a fetch asked its questions. -/
def asked (S : Source σ) (t : Timeline σ) (kind : RoundKind) (items : List String) : Timeline σ :=
  (ask S t kind items).2.2.2

/-- The ways in which a fetch goes on. -/
inductive FetchTurn (S : Source σ) (t : Timeline σ) (f : Fetch) : Timeline σ → Prop
  /-- Its answers are held back, or they have not arrived. -/
  | stays {g : Gathered}
      (patient : (∃ delay, f.stage = .held g delay ∧ t.isOpen f.kind = false) ∨
        ∃ until_, f.stage = .waiting g until_ ∧ t.now < until_) : FetchTurn S t f t
  /-- It asks, and its answers are held back. -/
  | holds {items : List String} (begun : f.stage = .begun items)
      (closed : (asked S t f.kind items).isOpen f.kind = false) :
      FetchTurn S t f ((asked S t f.kind items).setStage f.kind f.round
        (.held (ask S t f.kind items).1 (ask S t f.kind items).2.1))
  /-- It asks, and its answers may arrive. -/
  | hears {items : List String} (begun : f.stage = .begun items) :
      FetchTurn S t f ((asked S t f.kind items).awaitAnswers f.kind f.round
        (ask S t f.kind items).1 (ask S t f.kind items).2.1)
  /-- Its answers are no longer held back. -/
  | freed {g : Gathered} {delay : Nat} (held : f.stage = .held g delay)
      (isOpen : t.isOpen f.kind = true) : FetchTurn S t f (t.awaitAnswers f.kind f.round g delay)
  /-- Its answers have arrived. -/
  | ends {g : Gathered} {until_ : Nat} (waiting : f.stage = .waiting g until_)
      (arrived : until_ ≤ t.now) : FetchTurn S t f (t.endRound f.kind f.round g)

lemma stepFetch_none {kind : RoundKind} {round : Nat}
    (gone : ∀ f ∈ t.fetches, ¬ (f.kind = kind ∧ f.round = round)) :
    t.stepFetch S kind round = t := by
  have absent : t.fetches.find? (fun f => f.kind = kind ∧ f.round = round) = none := by
    simpa [List.find?_eq_none] using gone
  rw [stepFetch, absent]

/-- A fetch is gone, or it goes on in one of these ways. -/
lemma fetchTurn (S : Source σ) (t : Timeline σ) (kind : RoundKind) (round : Nat) :
    (t.stepFetch S kind round = t ∧ ∀ f ∈ t.fetches, ¬ (f.kind = kind ∧ f.round = round)) ∨
      ∃ f ∈ t.fetches, f.kind = kind ∧ f.round = round ∧
        FetchTurn S t f (t.stepFetch S kind round) := by
  cases found : t.fetches.find? (fun f => f.kind = kind ∧ f.round = round) with
  | none =>
    have gone : ∀ f ∈ t.fetches, ¬ (f.kind = kind ∧ f.round = round) := by
      simpa [List.find?_eq_none] using found
    exact .inl ⟨stepFetch_none gone, gone⟩
  | some f =>
    have isThere := List.mem_of_find?_eq_some found
    obtain ⟨rfl, rfl⟩ : f.kind = kind ∧ f.round = round := by
      simpa using List.find?_some found
    refine .inr ⟨f, isThere, rfl, rfl, ?_⟩
    rw [stepFetch, found]
    dsimp only
    cases stage : f.stage with
    | begun items =>
      dsimp only
      split
      next closed => exact .holds stage (by simpa [asked] using closed.2)
      next => exact .hears stage
    | held g delay =>
      dsimp only
      split
      next isOpen => exact .freed stage isOpen
      next closed => exact .stays (.inl ⟨delay, stage, by simpa using closed⟩)
    | waiting g until_ =>
      dsimp only
      split
      next arrived => exact .ends stage arrived
      next early => exact .stays (.inr ⟨until_, stage, Nat.lt_of_not_le early⟩)

/-! ### Schedules -/

/-- The ways in which a schedule of a loop goes on. -/
inductive Turn (S : Source σ) (t : Timeline σ) (l : Poller.Loop) (which : Poller.Which) :
    Timeline σ → Prop
  /-- Its loop was cancelled, and it stops. -/
  | stops (cancelled : l.cancelled = true) (running : (l.schedule which).isStopped = false) :
      Turn S t l which (t.setSchedule l.id which { l.schedule which with stage := .stopped })
  /-- It ticks. -/
  | ticks {armed : Bool} (live : l.cancelled = false)
      (resting : (l.schedule which).stage = .resting armed)
      (due : (l.schedule which).due ≤ t.now) : Turn S t l which (t.tick S l.id which (l.schedule which))
  /-- It sets a timer for its tick. -/
  | arms (live : l.cancelled = false) (resting : (l.schedule which).stage = .resting false)
      (early : t.now < (l.schedule which).due) :
      Turn S t l which ((t.setSchedule l.id which
        { l.schedule which with stage := .resting true }).arm (l.schedule which).due (.loop l.id))
  /-- The nodes are there, and it calls for its round. -/
  | takesNodes {until_ : Nat} {nodes : Except Api.Error (List String)}
      (live : l.cancelled = false) (refreshing : (l.schedule which).stage = .refreshing until_ nodes)
      (arrived : until_ ≤ t.now) : Turn S t l which (t.takeNodes l.id (l.schedule which) nodes)
  /-- Its round has ended. -/
  | takesRound {round : Nat} {failed bad : Bool} {notes : List Note} (live : l.cancelled = false)
      (inRound : (l.schedule which).stage = .inRound round failed)
      (judged : t.judge which round = some (bad, notes)) :
      Turn S t l which
        ((t.noteAll notes).takeRound l.id which (l.schedule which) round (failed || bad))

/-- Whether a schedule of a loop has nothing to do for now: it has stopped, or its loop was not
cancelled and it waits for its tick, for the nodes or for its round. -/
inductive Idle (now : Nat) (result? : RoundKind → Nat → Option CallResult) (l : Poller.Loop)
    (which : Poller.Which) : Prop
  | stopped (isStopped : (l.schedule which).isStopped = true)
  | resting (live : l.cancelled = false) (resting : (l.schedule which).stage = .resting true)
      (early : now < (l.schedule which).due)
  | refreshing {until_ : Nat} {nodes : Except Api.Error (List String)}
      (live : l.cancelled = false) (refreshing : (l.schedule which).stage = .refreshing until_ nodes)
      (early : now < until_)
  | inRound {round : Nat} {failed : Bool} (live : l.cancelled = false)
      (inRound : (l.schedule which).stage = .inRound round failed)
      (pending : result? (kindOf which) round = none)

lemma judge_eq_none {which : Poller.Which} {round : Nat} :
    t.judge which round = none ↔ t.result? (kindOf which) round = none := by
  cases which <;> simp [judge, result?, Store.result?, kindOf, listOutcome?, namesOutcome?]

/-- A schedule goes on in one of these ways, or it has nothing to do. -/
lemma turn {id : Nat} {l : Poller.Loop} (found : t.loop? id = some l) (S : Source σ)
    (which : Poller.Which) :
    (∃ t', t.stepSchedule S id which = some t' ∧ Turn S t l which t') ∨
      t.stepSchedule S id which = none ∧ Idle t.now t.result? l which := by
  obtain rfl : l.id = id := by simpa using List.find?_some found
  rw [stepSchedule, found]
  dsimp only
  cases stage : (l.schedule which).stage with
  | stopped => exact .inr ⟨rfl, .stopped (by simp [Poller.Schedule.isStopped, stage])⟩
  | resting armed =>
    have running : (l.schedule which).isStopped = false := by
      simp [Poller.Schedule.isStopped, stage]
    cases cancelled : l.cancelled with
    | true => exact .inl ⟨_, rfl, .stops cancelled running⟩
    | false =>
      by_cases due : (l.schedule which).due ≤ t.now
      · refine .inl ⟨_, ?_, .ticks cancelled stage due⟩
        simp [due]
      · have early := Nat.lt_of_not_le due
        cases armed with
        | true =>
          refine .inr ⟨?_, .resting cancelled stage early⟩
          simp [due]
        | false =>
          refine .inl ⟨_, ?_, .arms cancelled stage early⟩
          simp [due]
  | refreshing until_ nodes =>
    have running : (l.schedule which).isStopped = false := by
      simp [Poller.Schedule.isStopped, stage]
    cases cancelled : l.cancelled with
    | true => exact .inl ⟨_, rfl, .stops cancelled running⟩
    | false =>
      by_cases arrived : until_ ≤ t.now
      · refine .inl ⟨_, ?_, .takesNodes cancelled stage arrived⟩
        simp [arrived]
      · refine .inr ⟨?_, .refreshing cancelled stage (Nat.lt_of_not_le arrived)⟩
        simp [arrived]
  | inRound round failed =>
    have running : (l.schedule which).isStopped = false := by
      simp [Poller.Schedule.isStopped, stage]
    cases cancelled : l.cancelled with
    | true => exact .inl ⟨_, rfl, .stops cancelled running⟩
    | false =>
      cases judged : t.judge which round with
      | none =>
        refine .inr ⟨?_, .inRound cancelled stage (judge_eq_none.mp judged)⟩
        simp [judged]
      | some verdict =>
        obtain ⟨bad, notes⟩ := verdict
        refine .inl ⟨_, ?_, .takesRound cancelled stage judged⟩
        simp [judged]

lemma turn_of_some {id : Nat} {which : Poller.Which} (h : t.stepSchedule S id which = some t') :
    ∃ l, t.loop? id = some l ∧ Turn S t l which t' := by
  cases found : t.loop? id with
  | none => simp [stepSchedule, found] at h
  | some l =>
    obtain ⟨t'', stepped, turns⟩ | ⟨stepped, -⟩ := turn found S which
    · obtain rfl := Option.some.inj (stepped.symm.trans h)
      exact ⟨l, rfl, turns⟩
    · rw [h] at stepped
      cases stepped

end MetricWatch.Timeline
