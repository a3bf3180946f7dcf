import MetricWatch.Proofs.Polling.Turns
import MetricWatch.Proofs.Rounds.Reach

/-!
# The state of the loops

Starting and stopping a poller depends on the poller, on how many loops it has begun, and on which
of these still run and are cancelled: this is the state of the loops. Whatever else goes on takes
loops away when they have ended, and leaves this state as it is otherwise. The main statements are
`next_meanwhile` for a task that goes on, and `waitUntil_meanwhile` for the clock.
-/

namespace MetricWatch

/-- The number of a loop and whether it is cancelled. -/
structure Poller.Token where
  id : Nat
  cancelled : Bool
  deriving DecidableEq, Repr

/-- The token of a loop. -/
def Poller.Loop.token (l : Poller.Loop) : Poller.Token := ⟨l.id, l.cancelled⟩

@[simp] lemma Poller.Loop.token_withSchedule (l : Poller.Loop) (which : Poller.Which)
    (s : Poller.Schedule) : (l.withSchedule which s).token = l.token := by cases which <;> rfl

/-- What starting and stopping a poller depends on: the tokens are those of the loops that have not
ended. -/
structure LoopState where
  poller : Option Poller
  loopCount : Nat
  tokens : List Poller.Token

namespace Timeline

variable {σ : Type} {S : Source σ} {t t' t'' : Timeline σ}

/-- The state of the loops of a timeline. -/
def loopState (t : Timeline σ) : LoopState := ⟨t.poller, t.loopCount, t.loops.map Poller.Loop.token⟩

/-! ### What leaves the loops alone -/

@[simp] lemma loopState_wake (t : Timeline σ) (task : TaskId) :
    (t.wake task).loopState = t.loopState := by
  rw [wake_eq]
  rfl

@[simp] lemma loopState_arm (t : Timeline σ) (due : Nat) (task : TaskId) :
    (t.arm due task).loopState = t.loopState := rfl

@[simp] lemma loopState_note (t : Timeline σ) (n : Note) : (t.note n).loopState = t.loopState := rfl

@[simp] lemma loopState_noteAll (t : Timeline σ) (notes : List Note) :
    (t.noteAll notes).loopState = t.loopState := by
  rw [noteAll_eq]
  rfl

@[simp] lemma loopState_see (t : Timeline σ) (kind : RoundKind) (round : Nat) :
    (t.see kind round).2.loopState = t.loopState := by
  unfold see
  split <;> rfl

@[simp] lemma loopState_call (t : Timeline σ) (kind : RoundKind) :
    (t.call kind).2.loopState = t.loopState := by
  cases t.store.calls kind with
  | declined _ call =>
    cases kind with
    | list => simp only [Timeline.call, call]
    | names =>
      simp only [Timeline.call, call]
      rfl
  | joined _ _ call => simp only [Timeline.call, call]
  | started _ _ call =>
    simp only [Timeline.call, call, loopState_wake]
    rfl

lemma loopState_changeLoop (t : Timeline σ) (id : Nat) {change : Poller.Loop → Poller.Loop}
    (same : ∀ l, (change l).token = l.token) :
    (t.changeLoop id change).loopState = t.loopState := by
  simp only [loopState, changeLoop, List.map_map, LoopState.mk.injEq, true_and]
  refine List.map_congr_left fun l _ => ?_
  simp only [Function.comp_apply]
  split
  · exact same l
  · rfl

@[simp] lemma loopState_setSchedule (t : Timeline σ) (id : Nat) (which : Poller.Which)
    (s : Poller.Schedule) : (t.setSchedule id which s).loopState = t.loopState :=
  t.loopState_changeLoop id fun l => l.token_withSchedule which s

@[simp] lemma loopState_fail (t : Timeline σ) (which : Poller.Which) :
    (t.fail which).loopState = t.loopState := rfl

@[simp] lemma loopState_setCaller (t : Timeline σ) (id : Nat) (stage : CallerStage) :
    (t.setCaller id stage).loopState = t.loopState := rfl

@[simp] lemma loopState_setStage (t : Timeline σ) (kind : RoundKind) (round : Nat)
    (stage : FetchStage) : (t.setStage kind round stage).loopState = t.loopState := rfl

@[simp] lemma loopState_endRound (t : Timeline σ) (kind : RoundKind) (round : Nat) (g : Gathered) :
    (t.endRound kind round g).loopState = t.loopState := by
  simp only [endRound, wakeAll_eq, noteAll_eq]
  rfl

@[simp] lemma loopState_awaitAnswers (t : Timeline σ) (kind : RoundKind) (round : Nat)
    (g : Gathered)
    (delay : Nat) : (t.awaitAnswers kind round g delay).loopState = t.loopState := by
  unfold awaitAnswers
  split
  · exact t.loopState_endRound ..
  · rfl

@[simp] lemma loopState_ask (S : Source σ) (t : Timeline σ) (kind : RoundKind)
    (items : List String) : (ask S t kind items).2.2.2.loopState = t.loopState := by
  obtain ⟨_, _, _, consulted⟩ := ask_eq S t kind items
  rw [consulted]
  rfl

lemma loopState_beginRound (t : Timeline σ) (id : Nat) (which : Poller.Which) (s : Poller.Schedule)
    (failed : Bool) : (t.beginRound id which s failed).loopState = t.loopState := by
  have called := t.loopState_call (kindOf which)
  unfold beginRound
  generalize t.call (kindOf which) = met at called
  obtain ⟨_ | round, after⟩ := met
  · cases failed <;> simpa using called
  · simpa using called

lemma loopState_takeNodes (t : Timeline σ) (id : Nat) (s : Poller.Schedule)
    (nodes : Except Api.Error (List String)) :
    (t.takeNodes id s nodes).loopState = t.loopState := by
  unfold takeNodes
  split <;> exact loopState_beginRound ..

lemma loopState_tick (S : Source σ) (t : Timeline σ) (id : Nat) (which : Poller.Which)
    (s : Poller.Schedule) : (t.tick S id which s).loopState = t.loopState := by
  unfold tick
  cases which with
  | list => exact loopState_beginRound ..
  | names =>
    dsimp only
    split
    · split
      · exact (loopState_takeNodes ..).trans (loopState_noteAll _ _)
      · simp only [loopState_arm, loopState_setSchedule, loopState_noteAll]
        rfl
    · exact loopState_beginRound ..

lemma loopState_takeRound (t : Timeline σ) (id : Nat) (which : Poller.Which) (s : Poller.Schedule)
    (round : Nat) (failed : Bool) :
    (t.takeRound id which s round failed).loopState = t.loopState := by
  have seen := t.loopState_see (kindOf which) round
  unfold takeRound
  generalize t.see (kindOf which) round = look at seen
  obtain ⟨first, after⟩ := look
  cases first <;> cases failed <;> simpa using seen

lemma Turn.loopState {l : Poller.Loop} {which : Poller.Which} (turn : Turn S t l which t') :
    t'.loopState = t.loopState := by
  cases turn with
  | stops => exact loopState_setSchedule ..
  | ticks => exact loopState_tick ..
  | arms => exact (loopState_arm ..).trans (loopState_setSchedule ..)
  | takesNodes => exact loopState_takeNodes ..
  | takesRound => exact (loopState_takeRound ..).trans (loopState_noteAll ..)

lemma loopState_runSchedule (S : Source σ) (id : Nat) (which : Poller.Which) (fuel : Nat)
    (t : Timeline σ) : (runSchedule S id which fuel t).loopState = t.loopState := by
  induction fuel generalizing t with
  | zero => rfl
  | succ fuel ih =>
    unfold runSchedule
    split
    next t' h =>
      obtain ⟨l, -, turn⟩ := turn_of_some h
      exact (ih t').trans turn.loopState
    next => rfl

lemma FetchTurn.loopState {f : Fetch} (turn : FetchTurn S t f t') : t'.loopState = t.loopState := by
  cases turn with
  | stays => rfl
  | holds => exact (loopState_setStage ..).trans (loopState_ask ..)
  | hears => exact (loopState_awaitAnswers ..).trans (loopState_ask ..)
  | freed => exact loopState_awaitAnswers ..
  | ends => exact loopState_endRound ..

lemma loopState_stepFetch (S : Source σ) (t : Timeline σ) (kind : RoundKind) (round : Nat) :
    (t.stepFetch S kind round).loopState = t.loopState := by
  obtain ⟨same, -⟩ | ⟨f, -, -, -, turn⟩ := fetchTurn S t kind round
  · rw [same]
  · exact turn.loopState

lemma loopState_lookAt (t : Timeline σ) (id : Nat) (kind : RoundKind) (round : Nat) :
    (t.lookAt id kind round).loopState = t.loopState := by
  unfold lookAt
  split
  · exact (loopState_setCaller ..).trans (loopState_see ..)
  · rfl

lemma loopState_stepCaller (t : Timeline σ) (id : Nat) :
    (t.stepCaller id).loopState = t.loopState := by
  unfold stepCaller
  split
  · rfl
  next c _ =>
    split
    · have called := t.loopState_call c.kind
      generalize t.call c.kind = met at called
      obtain ⟨_ | round, after⟩ := met
      · exact called
      · exact (loopState_lookAt ..).trans called
    · exact loopState_lookAt ..
    · rfl
    · rfl

/-! ### What happens meanwhile -/

/-- Whether the state of the loops is as it was, but for loops that have ended. -/
structure Meanwhile (r r' : LoopState) : Prop where
  poller : r'.poller = r.poller
  loopCount : r'.loopCount = r.loopCount
  tokens : r'.tokens.Sublist r.tokens

namespace Meanwhile

variable {r r' r'' : LoopState}

lemma refl (r : LoopState) : Meanwhile r r := ⟨rfl, rfl, .refl _⟩

lemma of_eq (same : r' = r) : Meanwhile r r' := same ▸ refl r

lemma trans (first : Meanwhile r r') (last : Meanwhile r' r'') : Meanwhile r r'' :=
  ⟨last.poller.trans first.poller, last.loopCount.trans first.loopCount,
    last.tokens.trans first.tokens⟩

end Meanwhile

lemma stepLoop_meanwhile (S : Source σ) (t : Timeline σ) (id : Nat) :
    Meanwhile t.loopState (t.stepLoop S id).loopState := by
  unfold stepLoop
  split
  · exact .refl _
  next l _ =>
    have turned : (t.changeLoop id fun l => { l with namesFirst := !l.namesFirst }).loopState
      = t.loopState :=
      t.loopState_changeLoop id fun _ => rfl
    dsimp only
    have both (u : Timeline σ) (same : u.loopState = t.loopState) :
        Meanwhile t.loopState
          { u with loops := u.loops.filter fun l => ¬ (l.id = id ∧ l.isFinished) }.loopState :=
      (Meanwhile.of_eq same).trans ⟨rfl, rfl, (List.filter_sublist).map _⟩
    split
    · exact both _ ((loopState_runSchedule ..).trans ((loopState_runSchedule ..).trans turned))
    · exact both _ ((loopState_runSchedule ..).trans ((loopState_runSchedule ..).trans turned))

/-- Whatever task goes on, of the loops it only takes away those that have ended. -/
lemma step_meanwhile (S : Source σ) (t : Timeline σ) (task : TaskId) :
    Meanwhile t.loopState (t.step S task).loopState := by
  cases task with
  | fetch kind round => exact .of_eq (t.loopState_stepFetch S kind round)
  | caller id => exact .of_eq (t.loopState_stepCaller id)
  | loop id => exact stepLoop_meanwhile S t id

lemma next_meanwhile (S : Source σ) (t : Timeline σ) :
    Meanwhile t.loopState (t.next S).loopState := by
  unfold next
  split
  · exact .refl _
  next task rest _ => exact step_meanwhile S { t with ready := rest } task

lemma settle_meanwhile (S : Source σ) (t : Timeline σ) :
    Meanwhile t.loopState (t.settle S).loopState :=
  settle_induction (P := fun u => Meanwhile t.loopState u.loopState)
    (fun u before => before.trans (next_meanwhile S u)) (.refl _)

@[simp] lemma loopState_moveTo (t : Timeline σ) (time : Nat) :
    (t.moveTo time).loopState = t.loopState := by
  rw [moveTo, wakeAll_eq]
  rfl

/-- While anyone waits, the loops are left as they are but for those that end. -/
lemma waitUntil_meanwhile (S : Source σ) (holds : Timeline σ → Bool) (patience : Nat)
    (t : Timeline σ) : Meanwhile t.loopState (t.waitUntil S holds patience).2.loopState :=
  waitUntil_induction (P := fun u => Meanwhile t.loopState u.loopState)
    (fun u before => before.trans (settle_meanwhile S u))
    (fun u time before => before.trans (.of_eq (loopState_moveTo u time))) holds patience (.refl _)

end Timeline

end MetricWatch
