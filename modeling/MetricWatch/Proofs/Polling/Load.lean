import MetricWatch.Proofs.Polling.Sound
import Mathlib.Algebra.Order.BigOperators.Group.List
import Mathlib.Algebra.Order.Group.Nat
import Mathlib.Algebra.GroupWithZero.Nat

/-!
# Settling

A task that goes on makes others ready only at the cost of work that is then done: a tick that is no
longer due, a round that has been called for, a round that has ended. So the tasks of an instant run
out, and a timeline that has settled has none left. The main statement is `Sound.ready_settle`.
-/

namespace MetricWatch.Timeline

variable {σ : Type} {S : Source σ} {t t' : Timeline σ} {l : Poller.Loop} {which : Poller.Which}

/-! ### Sums -/

section

variable {α : Type} {f h : α → Nat} {xs : List α}

/-- What is taken off for some members is taken off the sum. -/
lemma sum_add_length_filter {p : α → Bool}
    (less : ∀ x ∈ xs, f x + (if p x then 1 else 0) ≤ h x) :
    (xs.map f).sum + (xs.filter p).length ≤ (xs.map h).sum := by
  induction xs with
  | nil => simp
  | cons x xs ih =>
    have first := less x List.mem_cons_self
    have rest := ih fun y mem => less y (List.mem_cons_of_mem x mem)
    rw [List.map_cons, List.map_cons, List.sum_cons, List.sum_cons, List.filter_cons]
    split
    next holds =>
      rw [if_pos holds] at first
      rw [List.length_cons]
      omega
    next => omega

/-- When one member is changed, the sum changes as this member does. -/
lemma sum_map_change {key : α → Nat} (distinct : (xs.map key).Nodup) {x : α} (mem : x ∈ xs)
    (f : α → Nat) (change : α → α) :
    ((xs.map fun y => if key y = key x then change y else y).map f).sum + f x
      = (xs.map f).sum + f (change x) := by
  induction xs with
  | nil => cases mem
  | cons y xs ih =>
    obtain ⟨fresh, distinct⟩ := List.nodup_cons.mp distinct
    simp only [List.map_cons, List.sum_cons]
    rcases List.mem_cons.mp mem with rfl | later
    · have others : (xs.map fun y => if key y = key x then change y else y) = xs := by
        refine (List.map_congr_left fun y there => if_neg fun same => ?_).trans (List.map_id _)
        exact fresh (same ▸ List.mem_map_of_mem there)
      rw [others, if_pos rfl]
      omega
    · have other : key y ≠ key x := fun same => fresh (same ▸ List.mem_map_of_mem later)
      have rest := ih distinct later
      rw [if_neg other]
      omega

end

/-! ### The load of tasks -/

/-- How many ticks of a schedule may come at a time, at most. -/
def room (s : Poller.Schedule) (now : Nat) : Nat :=
  if s.due ≤ now then min (now - s.due) Poller.grace + 1 else 0

/-- Every tick that comes leaves less room for others. -/
lemma room_nextDue {s s' : Poller.Schedule} {now : Nat} (period : 1 ≤ s.period)
    (due : s.due ≤ now) (next : s'.due = Poller.nextDue s.period s.due now) :
    room s' now + 1 ≤ room s now := by
  have some : room s now = min (now - s.due) Poller.grace + 1 := if_pos due
  rw [some]
  unfold room
  rw [next]
  unfold Poller.nextDue Poller.grace
  split <;> split <;> omega

namespace TaskState

variable {g g' : TaskState}

/-- How often a schedule can make a task ready at a time, at most: each tick may start a round,
wait for it and see it end. -/
def scheduleLoad (g : TaskState) (which : Poller.Which) (s : Poller.Schedule) : Nat :=
  3 * room s g.now + match s.stage with
    | .refreshing _ _ => 3
    | .inRound round _ => if (g.result? (kindOf which) round).isSome then 1 else 2
    | .resting _ | .stopped => 0

/-- How often the schedules of a loop can make a task ready at a time, at most. -/
def loopLoad (g : TaskState) (l : Poller.Loop) : Nat :=
  g.scheduleLoad .list l.list + g.scheduleLoad .names l.names

/-- How often a caller can make a task ready at a time, at most. -/
def callerLoad (g : TaskState) (c : Caller) : Nat :=
  match c.stage with
  | .begun => 2
  | .waiting round => if (g.result? c.kind round).isSome then 0 else 1
  | .finished _ | .aborted => 0

/-- How many tasks can go on at a time, at most. -/
def load (g : TaskState) : Nat :=
  g.ready.length + (g.callers.map g.callerLoad).sum + (g.loops.map g.loopLoad).sum

lemma length_woken_le (ready : List TaskId) (task : TaskId) :
    (woken ready task).length ≤ ready.length + 1 := by
  unfold woken
  split <;> simp

lemma length_foldl_woken_le (ready tasks : List TaskId) :
    (tasks.foldl woken ready).length ≤ ready.length + tasks.length := by
  induction tasks generalizing ready with
  | nil => simp
  | cons task tasks ih =>
    have first := length_woken_le ready task
    have rest := ih (woken ready task)
    rw [List.foldl_cons, List.length_cons]
    omega

lemma load_wake_le (g : TaskState) (task : TaskId) : (g.wake task).load ≤ g.load + 1 := by
  have length := length_woken_le g.ready task
  change (woken g.ready task).length + (g.callers.map g.callerLoad).sum
    + (g.loops.map g.loopLoad).sum ≤ g.load + 1
  unfold load
  omega

lemma Enters.load_le {kind : RoundKind} {round : Nat} (h : g.Enters kind round g') :
    g'.load ≤ g.load + 1 := by
  cases h with
  | joined => exact Nat.le_succ _
  | started => exact g.load_wake_le (.fetch kind round)

/-- When a schedule of a loop changes, the load changes as this schedule does. -/
lemma load_setSchedule (fit : g.Fit) (isThere : l ∈ g.loops) (which : Poller.Which)
    (s : Poller.Schedule) :
    (g.setSchedule l.id which s).load + g.scheduleLoad which (l.schedule which)
      = g.load + g.scheduleLoad which s := by
  have change := sum_map_change fit.loops isThere g.loopLoad fun l => l.withSchedule which s
  have own : g.loopLoad (l.withSchedule which s) + g.scheduleLoad which (l.schedule which)
      = g.loopLoad l + g.scheduleLoad which s := by
    cases which <;> simp only [loopLoad, Poller.Loop.withSchedule, Poller.Loop.schedule] <;> omega
  change g.ready.length + (g.callers.map g.callerLoad).sum
    + ((g.loops.map fun l' => if l'.id = l.id then l'.withSchedule which s else l').map
      g.loopLoad).sum + _ = _
  unfold load
  omega

lemma load_setSchedule_le (fit : g.Fit) (isThere : l ∈ g.loops) {s : Poller.Schedule}
    (less : g.scheduleLoad which s ≤ g.scheduleLoad which (l.schedule which)) :
    (g.setSchedule l.id which s).load ≤ g.load := by
  have change := load_setSchedule fit isThere which s
  omega

/-- When a caller changes, the load changes as this caller does. -/
lemma load_setCaller (fit : g.Fit) {c : Caller} (isThere : c ∈ g.callers) (stage : CallerStage) :
    (g.setCaller c.id stage).load + g.callerLoad c
      = g.load + g.callerLoad { c with stage := stage } := by
  have change := sum_map_change fit.callers isThere g.callerLoad
    fun c => { c with stage := stage }
  change g.ready.length + ((g.callers.map fun c' =>
    if c'.id = c.id then { c' with stage := stage } else c').map g.callerLoad).sum
      + (g.loops.map g.loopLoad).sum + _ = _
  unfold load
  omega

/-- A schedule that calls for its round has to pay for a tick. -/
lemma Begins.load_le (fit : g.Fit) (isThere : l ∈ g.loops) {s : Poller.Schedule}
    (h : g.Begins l.id which s g') :
    g'.load + g.scheduleLoad which (l.schedule which) ≤ g.load + (3 * room s g.now + 3) := by
  cases h with
  | declined =>
    have change := load_setSchedule fit isThere which { s with stage := .resting false }
    have rest : g.scheduleLoad which { s with stage := .resting false } = 3 * room s g.now := rfl
    omega
  | @admitted round g₁ enters failed =>
    obtain ⟨keeps, loops, -⟩ := enters.keeps
    have entering := enters.load_le
    have change := load_setSchedule (fit.enters enters) (loops ▸ isThere) which
      { s with stage := .inRound round failed }
    have same : g₁.scheduleLoad which (l.schedule which)
        = g.scheduleLoad which (l.schedule which) := by
      simp only [scheduleLoad, keeps.now, keeps.result?]
    have waits : g₁.scheduleLoad which { s with stage := .inRound round failed }
        ≤ 3 * room s g.now + 2 := by
      simp only [scheduleLoad, keeps.now]
      split
      · exact Nat.add_le_add_left (by omega) _
      · exact Nat.le_refl _
    omega

lemma scheduleLoad_resting (g : TaskState)
    (which : Poller.Which) {s : Poller.Schedule} {armed : Bool}
    (resting : s.stage = .resting armed) : g.scheduleLoad which s = 3 * room s g.now := by
  rw [scheduleLoad, resting]
  rfl

/-- The turn of a schedule does not make more tasks ready than it pays for. -/
lemma Turn.load_le (fit : g.Fit) (isThere : l ∈ g.loops) (h : g.Turn l which g') :
    g'.load ≤ g.load := by
  have period := fit.periods l isThere which
  cases h with
  | stops => exact load_setSchedule_le fit isThere (Nat.add_le_add_left (Nat.zero_le _) _)
  | ticks _ resting due begins =>
    have pays := begins.load_le fit isThere
    have less : room (g.ticked (l.schedule which)) g.now + 1 ≤ room (l.schedule which) g.now :=
      room_nextDue period due rfl
    have rested := g.scheduleLoad_resting which resting
    omega
  | @refreshes _ _ resting due _ until_ _ nodes =>
    have less : room (g.ticked (l.schedule which)) g.now + 1 ≤ room (l.schedule which) g.now :=
      room_nextDue period due rfl
    have rested := g.scheduleLoad_resting which resting
    have waits : g.scheduleLoad which
        { g.ticked (l.schedule which) with stage := .refreshing until_ nodes }
          = 3 * room (g.ticked (l.schedule which)) g.now + 3 := rfl
    exact load_setSchedule_le fit isThere (by omega)
  | arms _ resting =>
    have rested := g.scheduleLoad_resting which resting
    exact load_setSchedule_le fit isThere (Nat.le_of_eq rested.symm)
  | takesNodes _ refreshing _ begins =>
    have pays := begins.load_le fit isThere
    have waits : g.scheduleLoad which (l.schedule which)
        = 3 * room (l.schedule which) g.now + 3 := by
      rw [scheduleLoad, refreshing]
    omega
  | @takesRound round failed _ inRound ended again =>
    have waits : g.scheduleLoad which (l.schedule which)
        = 3 * room (l.schedule which) g.now + 1 := by
      rw [scheduleLoad, inRound]
      dsimp only
      rw [if_pos (Option.isSome_iff_ne_none.mpr ended)]
    have rests : g.scheduleLoad which { l.schedule which with stage := .resting false }
        = 3 * room (l.schedule which) g.now := rfl
    cases again with
    | false => exact load_setSchedule_le fit isThere (by omega)
    | true =>
      have woken := g.load_wake_le (.loop l.id)
      have change := load_setSchedule (g := g.wake (.loop l.id))
        (fit.of_sublist rfl (.refl _) rfl rfl) isThere which
        { l.schedule which with stage := .resting false }
      have same (s : Poller.Schedule) :
          (g.wake (.loop l.id)).scheduleLoad which s = g.scheduleLoad which s := rfl
      rw [same, same] at change
      exact Nat.le_of_add_le_add_right ((Nat.le_of_eq change).trans (by omega))

lemma result?_finish (g : TaskState) (kind : RoundKind) (round : Nat) (result : CallResult)
    (k : RoundKind) (r : Nat) : (g.finish kind round result).result? k r
      = if kind = k ∧ round = r then some result else g.result? k r := rfl

/-- A caller that waits for a round has less to do once the round has ended. -/
lemma callerLoad_finish {kind : RoundKind} {round : Nat} (pending : g.result? kind round = none)
    (result : CallResult) (c : Caller) :
    (g.finish kind round result).callerLoad c + (if callerAwaits c kind round then 1 else 0)
      ≤ g.callerLoad c := by
  unfold callerLoad callerAwaits
  cases c.stage with
  | begun | finished | aborted => simp
  | waiting r =>
    by_cases own : kind = c.kind ∧ round = r
    · obtain ⟨rfl, rfl⟩ := own
      simp [result?_finish, pending]
    · have other : ¬ (c.kind = kind ∧ r = round) := fun same => own ⟨same.1.symm, same.2.symm⟩
      simp [result?_finish, own, other]

/-- A schedule that waits for a round has less to do once the round has ended. -/
lemma scheduleLoad_finish {kind : RoundKind} {round : Nat} (pending : g.result? kind round = none)
    (result : CallResult) (which : Poller.Which) (s : Poller.Schedule) :
    (g.finish kind round result).scheduleLoad which s
      + (if kindOf which = kind ∧ awaits s round = true then 1 else 0)
        ≤ g.scheduleLoad which s := by
  unfold scheduleLoad awaits
  change 3 * room s g.now + _ + _ ≤ _
  cases s.stage with
  | resting | refreshing | stopped => simp
  | inRound r failed =>
    by_cases own : kind = kindOf which ∧ round = r
    · obtain ⟨rfl, rfl⟩ := own
      simp [result?_finish, pending]
    · have other : ¬ (kindOf which = kind ∧ r = round) :=
        fun same => own ⟨same.1.symm, same.2.symm⟩
      simp [result?_finish, own, other]

lemma loopLoad_finish {kind : RoundKind} {round : Nat} (pending : g.result? kind round = none)
    (result : CallResult) (l : Poller.Loop) :
    (g.finish kind round result).loopLoad l + (if loopAwaits l kind round then 1 else 0)
      ≤ g.loopLoad l := by
  have list := scheduleLoad_finish pending result .list l.list
  have names := scheduleLoad_finish pending result .names l.names
  unfold loopLoad loopAwaits
  cases kind <;>
    simp only [kindOf, true_and, reduceCtorEq, false_and, if_false] at list names ⊢ <;> omega

/-- The end of a round makes those ready who waited for it, and they wait no longer. -/
lemma load_finish_le {kind : RoundKind} {round : Nat} (pending : g.result? kind round = none)
    (result : CallResult) : (g.finish kind round result).load ≤ g.load := by
  have callers := sum_add_length_filter fun c (_ : c ∈ g.callers) =>
    callerLoad_finish pending result c
  have loops := sum_add_length_filter fun l (_ : l ∈ g.loops) => loopLoad_finish pending result l
  have ready := length_foldl_woken_le g.ready (g.awaiting kind round)
  simp only [awaiting, List.length_append, List.length_map] at ready
  change ((g.awaiting kind round).foldl woken g.ready).length
    + (g.callers.map (g.finish kind round result).callerLoad).sum
    + (g.loops.map (g.finish kind round result).loopLoad).sum ≤ _
  unfold load
  simp only [awaiting]
  omega

lemma FetchTurn.load_le (fit : g.Fit) {f : Fetch} (isThere : f ∈ g.fetches)
    (h : g.FetchTurn f g') : g'.load ≤ g.load := by
  cases h with
  | stays | holds | waits => exact Nat.le_refl _
  | ends result => exact load_finish_le (fit.pending f isThere) result

lemma CallerTurn.load_le (fit : g.Fit) {c : Caller} (isThere : c ∈ g.callers)
    (h : g.CallerTurn c g') : g'.load ≤ g.load := by
  cases h with
  | stays => exact Nat.le_refl _
  | @served round result waiting =>
    have change := load_setCaller fit isThere (.finished result)
    have done : g.callerLoad { c with stage := .finished result } = 0 := rfl
    omega
  | declined begun result =>
    have change := load_setCaller fit isThere (.finished result)
    have done : g.callerLoad { c with stage := .finished result } = 0 := rfl
    omega
  | @admitted round g₁ stage begun enters settled =>
    -- The call may start a round, and the caller has at most one more thing to do.
    have entering := enters.load_le
    have change := load_setCaller (fit.enters enters) (enters.keeps.1.callers ▸ isThere) stage
    have before : g₁.callerLoad c = 2 := by rw [callerLoad, begun]
    have after : g₁.callerLoad { c with stage := stage } ≤ 1 := by
      rcases settled with ⟨rfl, -⟩ | ⟨result, rfl⟩
      · unfold callerLoad
        dsimp only
        split <;> omega
      · exact Nat.zero_le _
    omega

end TaskState

/-! ### The load of a timeline -/

/-- How many tasks of a timeline can go on at a time, at most. -/
def load (t : Timeline σ) : Nat := t.taskState.load

namespace Sound

lemma load_spins (h : Sound S t) {id : Nat} (spins : Spins S id which t t') :
    t'.load ≤ t.load := by
  induction spins with
  | refl => exact Nat.le_refl _
  | tail before stepped ih =>
    have sound := h.spins before
    obtain ⟨l, found, turn⟩ := turn_of_some stepped
    have isThere := (TaskState.mem_of_loop? (g := Timeline.taskState _) found).1
    have turn := turn.taskState sound.isAhead (sound.fit.plain l isThere)
    exact (turn.load_le sound.fit isThere).trans ih

lemma load_turned (t : Timeline σ) (id : Nat) : (t.turned id).load = t.load := by
  have same : (t.turned id).loops.map t.taskState.loopLoad = t.loops.map t.taskState.loopLoad := by
    simp only [Timeline.turned, changeLoop, List.map_map]
    refine List.map_congr_left fun l _ => ?_
    simp only [Function.comp_apply]
    split <;> rfl
  change _ + ((t.turned id).loops.map t.taskState.loopLoad).sum = _
  rw [same]
  rfl

lemma load_swept (t : Timeline σ) (id : Nat) : (t.swept id).load ≤ t.load := by
  have less := (List.filter_sublist (l := t.loops)
    (p := fun l => ¬ (l.id = id ∧ l.isFinished))).map t.taskState.loopLoad
  exact Nat.add_le_add_left (less.sum_le_sum fun _ _ => Nat.zero_le _) _

/-- No task makes more tasks ready than it pays for. -/
lemma load_step (h : Sound S t) (task : TaskId) : (t.step S task).load ≤ t.load := by
  cases task with
  | fetch kind round =>
    obtain ⟨same, -⟩ | ⟨f, isThere, rfl, rfl, turn⟩ := fetchTurn S t kind round
    · exact Nat.le_of_eq (congrArg load same)
    · exact (turn.taskState fun _ => h.ofKind isThere).load_le h.fit isThere
  | caller id =>
    obtain ⟨same, -⟩ | ⟨c, isThere, rfl, turn⟩ := taskState_stepCaller h.isAhead id
    · exact Nat.le_of_eq (congrArg load same)
    · exact turn.load_le h.fit isThere
  | loop id =>
    obtain ⟨-, same⟩ | ⟨_, _, u, v, -, first, last, stepped, -⟩ := h.stepLoop_spins id
    · exact Nat.le_of_eq (congrArg load same)
    · have turned := h.turned id
      calc (t.stepLoop S id).load = (v.swept id).load := congrArg load stepped
        _ ≤ v.load := load_swept v id
        _ ≤ u.load := (turned.spins first).load_spins last
        _ ≤ (t.turned id).load := turned.load_spins first
        _ = t.load := load_turned t id

/-- With every task that goes on there is less to do. -/
lemma load_next (h : Sound S t) (busy : t.ready ≠ []) : (t.next S).load < t.load := by
  obtain ⟨task, rest, ready⟩ := List.exists_cons_of_ne_nil busy
  have stepped := (h.popped rest).load_step task
  have popped : ({ t with ready := rest } : Timeline σ).load < t.load := by
    have shorter : rest.length < t.ready.length := by simp [ready]
    exact Nat.add_lt_add_right (Nat.add_lt_add_right shorter _) _
  have next : t.next S = ({ t with ready := rest } : Timeline σ).step S task := by
    rw [Timeline.next, ready]
  rw [next]
  exact Nat.lt_of_le_of_lt stepped popped

lemma callerLoad_le (g : TaskState) (c : Caller) : g.callerLoad c ≤ 2 := by
  unfold TaskState.callerLoad
  cases c.stage with
  | begun | finished | aborted => simp
  | waiting round =>
    dsimp only
    split <;> omega

lemma loopLoad_le (g : TaskState) (l : Poller.Loop) : g.loopLoad l ≤ 42 := by
  have schedule (which : Poller.Which) (s : Poller.Schedule) : g.scheduleLoad which s ≤ 21 := by
    have few : room s g.now ≤ 6 := by
      unfold room Poller.grace
      split <;> omega
    unfold TaskState.scheduleLoad
    cases s.stage with
    | resting | stopped | refreshing =>
      dsimp only
      omega
    | inRound round failed =>
      dsimp only
      split <;> omega
  exact Nat.add_le_add (schedule _ _) (schedule _ _)

lemma load_le_settleFuel (t : Timeline σ) : t.load ≤ t.settleFuel := by
  have callers := List.sum_le_card_nsmul (t.callers.map t.taskState.callerLoad) 2
    (List.forall_mem_map.mpr fun c _ => callerLoad_le t.taskState c)
  have loops := List.sum_le_card_nsmul (t.loops.map t.taskState.loopLoad) 42
    (List.forall_mem_map.mpr fun l _ => loopLoad_le t.taskState l)
  rw [List.length_map, Nat.nsmul_eq_mul] at callers loops
  unfold settleFuel
  change t.ready.length + (t.callers.map t.taskState.callerLoad).sum
    + (t.loops.map t.taskState.loopLoad).sum ≤ _
  omega

/-- A timeline that has settled has no task left that is ready. -/
theorem ready_settle (h : Sound S t) : (t.settle S).ready = [] := by
  have enough := load_le_settleFuel t
  unfold Timeline.settle
  generalize t.settleFuel = fuel at enough
  induction fuel generalizing t with
  | zero =>
    by_contra busy
    have less := h.load_next busy
    omega
  | succ fuel ih =>
    unfold settleWithin
    split
    next rest => exact List.isEmpty_iff.mp rest
    next busy =>
      have less := h.load_next fun rest => busy (List.isEmpty_iff.mpr rest)
      exact ih h.next (by omega)

end Sound

end MetricWatch.Timeline
