import MetricWatch.Proofs.Rounds.Move

/-!
# Everything is a path of moves

Whatever a timeline does, task by task or for as long as it takes, it does by moves. The main
statements are `step_reaches` for a task that goes on, `waitUntil_reaches` for the clock,
`callInFront_reaches` for callers that wait, and `stopPoller_reaches` for the poller; by
`Run.reaches`, what holds along every run of moves holds of every timeline that there ever is.
-/

namespace MetricWatch.Timeline

variable {σ : Type} {S : Source σ} {t t' t'' : Timeline σ}

/-- Whether a timeline comes out of another by moves. -/
def Reaches (S : Source σ) (t t' : Timeline σ) : Prop := ∃ marks, Path S t marks t'

namespace Reaches

lemma refl (t : Timeline σ) : Reaches S t t := ⟨[], .refl⟩

lemma trans (first : Reaches S t t') (last : Reaches S t' t'') : Reaches S t t'' := by
  obtain ⟨_, before⟩ := first
  obtain ⟨_, after⟩ := last
  exact ⟨_, before.trans after⟩

lemma move {m : Mark} (h : Move S t m t') : Reaches S t t' := ⟨[m], .single h⟩

lemma aside (same : t'.work = t.work) : Reaches S t t' := .move (.aside same)

end Reaches

/-- A run goes on with whatever its timeline reaches. -/
theorem Run.reaches {marks : List Mark} (run : Run S marks t) (reaches : Reaches S t t') :
    ∃ later, Run S (later ++ marks) t' := by
  obtain ⟨later, path⟩ := reaches
  exact ⟨later, run.trans path⟩

/-! ### Fetches -/

/-- A fetch that is done with does not care at which stage it was. -/
lemma Work.finish_setStage (w : Work) (kind : RoundKind) (round now : Nat) (stage : FetchStage)
    (g : Gathered) : (w.setStage kind round stage).finish kind round now g
      = w.finish kind round now g := by
  obtain ⟨store, fetches, callers, questions⟩ := w
  simp only [finish, setStage, mk.injEq, true_and, and_true]
  induction fetches with
  | nil => rfl
  | cons f fetches ih =>
    simp only [List.map_cons, List.filter_cons]
    by_cases own : f.kind = kind ∧ f.round = round
    · simpa [own] using ih
    · simpa only [own, if_false, not_false_eq_true, decide_true, if_true, List.cons.injEq,
        true_and] using ih

lemma Work.setStage_setStage (w : Work) (kind : RoundKind) (round : Nat)
    (first last : FetchStage) : (w.setStage kind round first).setStage kind round last
      = w.setStage kind round last := by
  simp only [setStage, mk.injEq, List.map_map, true_and, and_true]
  refine List.map_congr_left fun f _ => ?_
  by_cases own : f.kind = kind ∧ f.round = round <;> simp [own]

/-- A fetch whose answers are there lets them arrive. -/
lemma awaitAnswers_reaches {f : Fetch} {g : Gathered} (isThere : f ∈ t.fetches)
    (asked : f.stage.gathered? = some g) (delay : Nat) :
    Reaches S t (t.awaitAnswers f.kind f.round g delay) := by
  unfold awaitAnswers
  split
  · exact .move (.finish isThere asked)
  · exact (Reaches.move (.delay isThere asked (t.now + delay))).trans (.aside rfl)

lemma stepFetch_reaches (S : Source σ) (t : Timeline σ) (kind : RoundKind) (round : Nat) :
    Reaches S t (t.stepFetch S kind round) := by
  unfold stepFetch
  split
  · exact .refl t
  next f found =>
    have isThere := List.mem_of_find?_eq_some found
    obtain ⟨rfl, rfl⟩ : f.kind = kind ∧ f.round = round := by
      simpa using List.find?_some found
    split
    next items begun =>
      -- The questions are asked, and the answers are first taken to be held back.
      let after := (ask S t f.kind items).2.2.2
      let g := (ask S t f.kind items).1
      let delay := (ask S t f.kind items).2.1
      let held := after.setStage f.kind f.round (.held g delay)
      have asking : Reaches S t held := .move (.ask isThere begun)
      have still : f ∈ after.fetches := by
        obtain ⟨questions, _, work⟩ := work_ask S t f.kind items
        have same : after.fetches = t.fetches := congrArg Work.fetches work
        rw [same]
        exact isThere
      have isHeld : { f with stage := .held g delay } ∈ held.fetches :=
        List.mem_map.mpr ⟨f, still, by simp⟩
      have arriving : Reaches S held (after.awaitAnswers f.kind f.round g delay) := by
        refine (awaitAnswers_reaches isHeld rfl delay).trans (.aside ?_)
        unfold awaitAnswers
        split
        · rw [work_endRound, work_endRound, work_setStage, Work.finish_setStage]
          rfl
        · simp only [work_arm, work_setStage, held, Work.setStage_setStage]
          rfl
      have either (p : Prop) [Decidable p] :
          Reaches S t (if p then held else after.awaitAnswers f.kind f.round g delay) := by
        split
        · exact asking
        · exact asking.trans arriving
      exact either _
    next g delay held =>
      split
      · exact awaitAnswers_reaches isThere (by rw [held]; rfl) delay
      · exact .refl t
    next g until_ waiting =>
      split
      · exact .move (.finish isThere (by rw [waiting]; rfl))
      · exact .refl t

/-! ### Callers -/

lemma call_reaches (S : Source σ) (t : Timeline σ) (kind : RoundKind) :
    Reaches S t (t.call kind).2 := .move (.call none kind (by simp [Work.MayCall]))

lemma lookAt_reaches {c : Caller} {round : Nat} (isThere : c ∈ t.callers)
    (waiting : c.stage = .waiting round) : Reaches S t (t.lookAt c.id c.kind round) := by
  unfold lookAt
  split
  next result ended =>
    exact (Reaches.move (.serve isThere waiting ended)).trans (.aside (by simp))
  next => exact .refl t

lemma stepCaller_reaches (S : Source σ) (t : Timeline σ) (id : Nat) :
    Reaches S t (t.stepCaller id) := by
  unfold stepCaller
  split
  · exact .refl t
  next c found =>
    have isThere := List.mem_of_find?_eq_some found
    obtain rfl : c.id = id := by simpa using List.find?_some found
    split
    next begun =>
      have calling : Reaches S t
          ((t.call c.kind).2.setCaller c.id (afterCall c.kind (t.call c.kind).1)) :=
        .move (.call (some c.id) c.kind (by
          rintro _ ⟨⟩
          exact ⟨c, isThere, rfl, rfl, begun⟩))
      have still : c ∈ (t.call c.kind).2.callers := by rwa [callers_call]
      generalize t.call c.kind = called at calling still
      obtain ⟨met, after⟩ := called
      cases met with
      | none => exact calling
      | some round =>
        let waiter : Caller := { c with stage := .waiting round }
        have isWaiting : waiter ∈ (after.setCaller c.id (afterCall c.kind (some round))).callers :=
          List.mem_map.mpr ⟨c, still, by simp [waiter, afterCall]⟩
        exact calling.trans (lookAt_reaches (c := waiter) isWaiting rfl)
    next round waiting => exact lookAt_reaches isThere waiting
    · exact .refl t
    · exact .refl t

/-! ### Loops -/

lemma beginRound_reaches (S : Source σ) (t : Timeline σ) (id : Nat) (which : Poller.Which)
    (s : Poller.Schedule) (failed : Bool) : Reaches S t (t.beginRound id which s failed) := by
  have calling := call_reaches S t (kindOf which)
  unfold beginRound
  split
  next called =>
    rw [called] at calling
    refine calling.trans (.aside ?_)
    cases failed <;> rfl
  next called =>
    rw [called] at calling
    exact calling.trans (.aside rfl)

lemma takeNodes_reaches (S : Source σ) (t : Timeline σ) (id : Nat) (s : Poller.Schedule)
    (nodes : Except Api.Error (List String)) : Reaches S t (t.takeNodes id s nodes) := by
  unfold takeNodes
  split
  next ids => exact (Reaches.move (.chore t (.updateNodes ids))).trans (beginRound_reaches S _ ..)
  next =>
    refine Reaches.trans ?_ (beginRound_reaches S _ ..)
    exact .aside rfl

lemma tick_reaches (S : Source σ) (t : Timeline σ) (id : Nat) (which : Poller.Which)
    (s : Poller.Schedule) : Reaches S t (t.tick S id which s) := by
  let ticked : Timeline σ := { t with stats := t.stats.tick which }
  have ticking : Reaches S t ticked := .aside rfl
  unfold tick
  cases which with
  | list => exact ticking.trans (beginRound_reaches S ticked ..)
  | names =>
    dsimp only
    split
    · let asked := S.nodes t.source t.store.session t.now
      let after : Timeline σ := { ticked with source := asked.state }.noteAll asked.notes
      have asking : Reaches S t after := ticking.trans (.aside (work_noteAll _ _))
      split
      · exact asking.trans (takeNodes_reaches S after ..)
      · exact asking.trans (.aside rfl)
    · exact ticking.trans (beginRound_reaches S ticked ..)

lemma work_takeRound (t : Timeline σ) (id : Nat) (which : Poller.Which) (s : Poller.Schedule)
    (round : Nat) (failed : Bool) : (t.takeRound id which s round failed).work = t.work := by
  have seen := t.work_see (kindOf which) round
  unfold takeRound
  generalize t.see (kindOf which) round = look at seen
  obtain ⟨first, after⟩ := look
  cases first <;> cases failed <;> simpa using seen

lemma stepSchedule_reaches (S : Source σ) (id : Nat) (which : Poller.Which)
    (h : t.stepSchedule S id which = some t') : Reaches S t t' := by
  unfold stepSchedule at h
  split at h
  · cases h
  next l found =>
    dsimp only at h
    split at h
    · cases h
    next armed resting =>
      split at h
      · cases h
        exact .aside rfl
      · split at h
        · cases h
          exact tick_reaches S t ..
        · split at h
          · cases h
          · cases h
            exact .aside rfl
    next until_ nodes refreshing =>
      split at h
      · cases h
        exact .aside rfl
      · split at h
        · cases h
          exact takeNodes_reaches S t ..
        · cases h
    next round failed waiting =>
      split at h
      · cases h
        exact .aside rfl
      · obtain ⟨⟨bad, notes⟩, _, rfl⟩ := Option.map_eq_some_iff.mp h
        exact .aside (by rw [work_takeRound, work_noteAll])

lemma runSchedule_reaches (S : Source σ) (id : Nat) (which : Poller.Which) (fuel : Nat)
    (t : Timeline σ) : Reaches S t (runSchedule S id which fuel t) := by
  induction fuel generalizing t with
  | zero => exact .refl t
  | succ fuel ih =>
    unfold runSchedule
    split
    next t' h => exact (stepSchedule_reaches S id which h).trans (ih t')
    next => exact .refl t

lemma stepLoop_reaches (S : Source σ) (t : Timeline σ) (id : Nat) :
    Reaches S t (t.stepLoop S id) := by
  unfold stepLoop
  split
  · exact .refl t
  next l found =>
    let turned := t.changeLoop id fun l => { l with namesFirst := !l.namesFirst }
    have turning : Reaches S t turned := .aside rfl
    let run (which : Poller.Which) (t : Timeline σ) : Timeline σ :=
      runSchedule S id which (t.scheduleFuel id which) t
    have both (first last : Poller.Which) : Reaches S turned (run last (run first turned)) :=
      (runSchedule_reaches S id first _ _).trans (runSchedule_reaches S id last _ _)
    have either : Reaches S turned (if l.namesFirst then run .list (run .names turned)
        else run .names (run .list turned)) := by
      split
      · exact both .names .list
      · exact both .list .names
    exact (turning.trans either).trans (.aside rfl)

/-! ### Tasks and time -/

/-- A task that goes on does so by moves, whether it is its turn or not. -/
theorem step_reaches (S : Source σ) (t : Timeline σ) (task : TaskId) :
    Reaches S t (t.step S task) := by
  cases task with
  | fetch kind round => exact stepFetch_reaches S t kind round
  | caller id => exact stepCaller_reaches S t id
  | loop id => exact stepLoop_reaches S t id

lemma next_reaches (S : Source σ) (t : Timeline σ) : Reaches S t (t.next S) := by
  unfold next
  split
  · exact .refl t
  next task rest _ =>
    refine Reaches.trans ?_ (step_reaches S _ task)
    exact .aside rfl

/-- What every task that goes on keeps is kept until the timeline has settled. -/
lemma settle_induction {P : Timeline σ → Prop} (next : ∀ t, P t → P (t.next S)) (h : P t) :
    P (t.settle S) := by
  unfold settle
  induction t.settleFuel generalizing t with
  | zero => exact h
  | succ fuel ih =>
    unfold settleWithin
    split
    · exact h
    · exact ih (next t h)

lemma settle_reaches (S : Source σ) (t : Timeline σ) : Reaches S t (t.settle S) :=
  settle_induction (P := Reaches S t) (fun u reached => reached.trans (next_reaches S u)) (.refl t)

lemma moveTo_reaches (S : Source σ) (t : Timeline σ) (time : Nat) :
    Reaches S t (t.moveTo time) := .aside (t.work_moveTo time)

/-- What is kept until the timeline has settled, and when the clock moves on, is kept for as long as
anyone waits. -/
lemma waitUntil_induction {P : Timeline σ → Prop} (settle : ∀ t, P t → P (t.settle S))
    (moveTo : ∀ t time, P t → P (t.moveTo time)) (holds : Timeline σ → Bool) (patience : Nat)
    (h : P t) : P (t.waitUntil S holds patience).2 := by
  unfold waitUntil
  generalize t.now + patience = limit, patience + t.timers.length + 2 = moves
  induction moves generalizing t with
  | zero => exact h
  | succ moves ih =>
    have settled := settle t h
    unfold waitWithin
    dsimp only
    split
    · exact settled
    · split
      · split
        · exact ih (moveTo _ _ settled)
        · exact moveTo _ _ settled
      · exact moveTo _ _ settled

/-- Whoever waits until something holds and does not give up sees that it holds. -/
lemma waitWithin_holds (S : Source σ) (holds : Timeline σ → Bool) (limit moves : Nat)
    (t : Timeline σ) (arrived : (waitWithin S holds limit moves t).1 = true) :
    holds (waitWithin S holds limit moves t).2 = true := by
  induction moves generalizing t with
  | zero => cases arrived
  | succ moves ih =>
    rw [waitWithin] at arrived ⊢
    split
    next held => exact held
    next not =>
      rw [if_neg not] at arrived
      split at arrived
      · split at arrived
        next due =>
          rw [if_pos due]
          exact ih _ arrived
        next => cases arrived
      · cases arrived

/-- The timeline goes on by moves for as long as anyone waits. -/
theorem waitUntil_reaches (S : Source σ) (holds : Timeline σ → Bool) (patience : Nat)
    (t : Timeline σ) : Reaches S t (t.waitUntil S holds patience).2 :=
  waitUntil_induction (P := Reaches S t) (fun u reached => reached.trans (settle_reaches S u))
    (fun u time reached => reached.trans (moveTo_reaches S u time)) holds patience (.refl t)

lemma advance_reaches (S : Source σ) (t : Timeline σ) (millis : Nat) :
    Reaches S t (t.advance S millis) :=
  (waitUntil_reaches S _ millis t).trans (settle_reaches S _)

/-! ### Callers in front -/

lemma callTimes_reaches (S : Source σ) (kind : RoundKind) (n : Nat) (t : Timeline σ) :
    Reaches S t (callTimes kind n t).2 := by
  induction n generalizing t with
  | zero => exact .refl t
  | succ n ih => exact (call_reaches S t kind).trans (ih _)

lemma work_seeAll (t : Timeline σ) (kind : RoundKind) (rounds : List Nat) :
    (rounds.foldl (fun t round => (t.see kind round).2) t).work = t.work := by
  induction rounds generalizing t with
  | nil => rfl
  | cons round rounds ih => exact (ih _).trans (t.work_see kind round)

/-- Calls in front and their waiting are moves. -/
theorem callInFront_reaches (S : Source σ) (t : Timeline σ) (kind : RoundKind) (n : Nat) :
    Reaches S t (t.callInFront S kind n).2 := by
  have waiting := (callTimes_reaches S kind n t).trans (waitUntil_reaches S
    (fun t' => (callTimes kind n t).1.all (t'.isOver kind)) patience (callTimes kind n t).2)
  unfold callInFront
  dsimp only
  split
  · exact waiting.trans (.aside (work_seeAll ..))
  · exact waiting

lemma join_reaches (S : Source σ) (t : Timeline σ) (id : Nat) :
    Reaches S t (t.join S id).2 :=
  waitUntil_reaches S (fun t => (t.ending? id).isSome) patience t

/-! ### Gates and owners -/

lemma setGate_reaches (S : Source σ) (t : Timeline σ) (kind : RoundKind) (isOpen : Bool) :
    Reaches S t (t.setGate kind isOpen) := by
  apply Reaches.aside
  cases kind <;> cases isOpen <;> simp only [setGate, if_true, wakeAll_eq] <;> rfl

lemma releaseStore_reaches (S : Source σ) (t : Timeline σ) : Reaches S t t.releaseStore :=
  .aside rfl

/-! ### The poller -/

lemma work_cancelLoop (t : Timeline σ) (p : Poller) : (t.cancelLoop p).work = t.work := by
  unfold cancelLoop
  split
  · exact work_wake _ _
  · rfl

lemma startPoller_reaches (S : Source σ) (t : Timeline σ) : Reaches S t t.startPoller.2 := by
  unfold startPoller
  split
  · exact .refl t
  · split
    · exact .refl t
    · exact .aside (work_wake _ _)

/-- The poller stops by moves, however long it takes. -/
theorem stopPoller_reaches (S : Source σ) (t : Timeline σ) (exit : Poller.Exit) :
    Reaches S t (t.stopPoller S exit).2 := by
  unfold stopPoller
  split
  · exact .refl t
  next p _ =>
    split
    · have cancelling : Reaches S t
          { (t.note (.info "Stopping metrics poller")).cancelLoop p with
            poller := some { p with handle := none } } :=
        .aside (work_cancelLoop (t.note _) p)
      dsimp only
      split
      · exact cancelling
      · have waiting := cancelling.trans (waitUntil_reaches S
          (fun t => p.handle.all fun id => (t.loop? id).isNone) p.timing.stopWithin _)
        split
        · cases exit with
          | finished => exact waiting.trans (.aside rfl)
          | broke => exact waiting
        · exact waiting
    · exact .refl t

lemma releasePoller_reaches (S : Source σ) (t : Timeline σ) : Reaches S t t.releasePoller := by
  unfold releasePoller
  split
  · exact .refl t
  next p _ =>
    dsimp only
    split
    · exact .aside (work_cancelLoop (t.note _) p)
    · exact .aside rfl

end MetricWatch.Timeline
