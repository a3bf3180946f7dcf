import MetricWatch.Proofs.Polling.Lifecycle

/-!
# Whether a poller is running

A poller takes itself to be running as long as the loop that it would wait for is alive. A stop
gives that loop up before it has ended, and what winds down after a stop that timed out is no longer
seen: the poller says that it is not running, refuses another stop and starts again although a loop
of its own is alive. Exactly the loops that nobody has cancelled are told of. The main statement is
`Managed.tells_running`, and `winding_down_untold` shows the loop that is not told of.
-/

namespace MetricWatch

open Poller (Token)

namespace LoopState

variable {r r' : LoopState} {p : Poller}

/-- Whether nobody has cancelled the loop that the poller would wait for. -/
def HandleLive (r : LoopState) : Prop :=
  ∀ p, r.poller = some p → ∀ k ∈ r.tokens, p.handle = some k.id → k.cancelled = false

namespace HandleLive

/-- A poller that waits for nothing has nothing to be cancelled. -/
lemma of_no_handle (none : r.poller.bind Poller.handle = none) : r.HandleLive := by
  intro p poller k _ handle
  rw [poller, Option.bind_some, handle] at none
  cases none

lemma begin (given : ∀ k ∈ r.tokens, k.id < r.loopCount) (p : Poller) :
    (r.begin p).HandleLive := by
  intro p' poller k mem handle
  obtain rfl := Option.some.inj poller
  have own : r.loopCount = k.id := Option.some.inj handle
  rcases List.mem_append.mp mem with old | new
  · exact absurd own.symm (Nat.ne_of_lt (given k old))
  · rw [List.mem_singleton.mp new]

lemma meanwhile (h : r.HandleLive) (m : Timeline.Meanwhile r r') : r'.HandleLive :=
  fun p poller k mem => h p (m.poller ▸ poller) k (m.tokens.subset mem)

end HandleLive

/-- A poller is running exactly while a loop is alive that nobody has cancelled. -/
lemma Owned.isRunning_iff (h : r.Owned) (live : r.HandleLive) :
    r.isRunning = true ↔ ∃ k ∈ r.tokens, k.cancelled = false := by
  constructor
  · intro running
    unfold isRunning at running
    split at running
    next id handle =>
      obtain ⟨p, poller, handle⟩ := Option.bind_eq_some_iff.mp handle
      obtain ⟨k, mem, own⟩ := List.any_eq_true.mp running
      have own : k.id = id := by simpa using own
      exact ⟨k, mem, live p poller k mem (own ▸ handle)⟩
    next => cases running
  · rintro ⟨k, mem, free⟩
    by_contra idle
    have cancelled := h.cancelled_of_idle (by simpa using idle) k mem
    rw [free] at cancelled
    cases cancelled

end LoopState

namespace Timeline

variable {σ : Type} {S : Source σ} {t t' : Timeline σ}

/-- All along the life of a poller, nobody has cancelled the loop that it would wait for. -/
lemma Managed.handleLive (managed : Managed t) : t.loopState.HandleLive := by
  induction managed with
  | new none => exact fun _ _ k mem => absurd mem (by simp [loopState, withPoller, none])
  | @start u managed ih =>
    cases running : u.isRunning with
    | true =>
      rw [startPoller_of_running running]
      exact ih
    | false =>
      cases poller : u.poller with
      | none =>
        rw [startPoller_of_absent poller]
        exact ih
      | some p =>
        rw [startPoller_of_idle poller running, loopState_beginLoop, loopState_note]
        exact .begin managed.owned.given p
  | @stop u _ ih =>
    cases running : u.isRunning with
    | true =>
      cases poller : u.poller with
      | none => simp [isRunning, poller] at running
      | some p => exact .of_no_handle (by simp [loopState, poller_haltPoller poller running])
    | false =>
      rw [haltPoller_of_idle running]
      exact ih
  | @drop u _ ih =>
    cases poller : u.poller with
    | none =>
      have same : u.releasePoller = u := by simp [releasePoller, poller]
      rw [same]
      exact ih
    | some p => exact .of_no_handle (by simp [loopState, releasePoller, poller])
  | meanwhile _ m ih => exact ih.meanwhile m

/-- What a poller tells about its loops. -/
structure TellsRunning (S : Source σ) (t : Timeline σ) : Prop where
  /-- It is running exactly while a loop is alive that nobody has cancelled. -/
  running_iff : t.isRunning = true ↔ ∃ l ∈ t.loops, l.cancelled = false
  /-- So it tells whether any loop is alive, but while all that are alive wind down. -/
  tells_alive_iff : (t.isRunning = true ↔ t.loops ≠ []) ↔
    ¬ (t.loops ≠ [] ∧ ∀ l ∈ t.loops, l.cancelled = true)
  /-- A stop is refused exactly while all loops that are alive wind down. -/
  notRunning_iff : ∀ exit, (t.stopPoller S exit).1 = .error .notRunning ↔
    ∀ l ∈ t.loops, l.cancelled = true
  /-- A start succeeds at the same times, as long as the poller is not given up. -/
  starts_iff : t.startPoller.1 = .ok () ↔
    t.poller.isSome = true ∧ ∀ l ∈ t.loops, l.cancelled = true
  /-- When a stop is over, whether in time or not, the poller does not take itself to be running,
  and another start succeeds whatever is still alive. -/
  restarts : t.isRunning = true → ∀ exit, (t.stopPoller S exit).2.isRunning = false ∧
    (∀ l ∈ (t.stopPoller S exit).2.loops, l.cancelled = true) ∧
    (t.stopPoller S exit).2.startPoller.1 = .ok ()

/-- All along its life, a poller tells of its loops those that nobody has cancelled, and no
others. -/
theorem Managed.tells_running (managed : Managed t) (S : Source σ) : TellsRunning S t := by
  have running_iff : t.isRunning = true ↔ ∃ l ∈ t.loops, l.cancelled = false := by
    rw [← isRunning_loopState, managed.owned.isRunning_iff managed.handleLive]
    simp [loopState, Poller.Loop.token]
  have idle_iff : t.isRunning = false ↔ ∀ l ∈ t.loops, l.cancelled = true := by
    rw [← Bool.not_eq_true, running_iff]
    simp
  refine ⟨running_iff, ?_, fun exit => ?_, ?_, fun running exit => ?_⟩
  · rw [← idle_iff]
    cases running : t.isRunning with
    | true =>
      obtain ⟨l, mem, -⟩ := running_iff.mp running
      simp [List.ne_nil_of_mem mem]
    | false => simp
  · rw [← idle_iff]
    constructor
    · intro refused
      by_contra running
      have running : t.isRunning = true := by simpa using running
      obtain ⟨p, poller⟩ : ∃ p, t.poller = some p := by
        cases poller : t.poller with
        | none => simp [isRunning, poller] at running
        | some p => exact ⟨p, rfl⟩
      rcases (stopPoller_of_running S exit poller running).2 with ⟨joined, -⟩ | timeout
      · rw [refused] at joined
        cases exit <;> cases joined
      · rw [refused] at timeout
        cases timeout
    · intro idle
      rw [stopPoller_of_idle S exit idle]
  · rw [← idle_iff]
    constructor
    · intro ok
      cases poller : t.poller with
      | none => simp [startPoller, poller] at ok
      | some p =>
        refine ⟨rfl, ?_⟩
        by_contra running
        rw [startPoller_of_running (by simpa using running)] at ok
        cases ok
    · rintro ⟨isSome, idle⟩
      obtain ⟨p, poller⟩ := Option.isSome_iff_exists.mp isSome
      rw [startPoller_of_idle poller idle]
  · have single := managed.single_loop S
    obtain ⟨p, poller⟩ : ∃ p, t.poller = some p := by
      cases poller : t.poller with
      | none => simp [isRunning, poller] at running
      | some p => exact ⟨p, rfl⟩
    obtain ⟨idle, cancelled, afresh⟩ :=
      single.restarts running _ (stopPoller_of_running S exit poller running).1
    exact ⟨idle, cancelled, afresh.ok⟩

/-- A poller that does not wait for its loop is stopped and started again. Of its two loops it
tells only the second. -/
theorem tells_running_restarted :
    let idle : Timeline Script :=
      (start (.fresh .loggedOut .unknown "org" 64) {}).withPoller { stopWithin := 0 } false
    let restarted := (idle.startPoller.2.stopPoller Script.source .finished).2.startPoller.2
    restarted.loops.map Poller.Loop.token = [⟨0, true⟩, ⟨1, false⟩] ∧
      restarted.isRunning = true ∧ Managed restarted ∧ TellsRunning Script.source restarted := by
  intro idle restarted
  have managed : Managed restarted := ((Managed.new rfl _ _).start.stopPoller _ _).start
  refine ⟨?_, ?_, managed, managed.tells_running _⟩
  · unfold restarted idle
    rfl
  · unfold restarted idle
    rfl

/-- It is not so that a poller is running whenever a loop of it is alive: after a stop that timed
out the poller is not running while its loop winds down, it refuses another stop, and it starts. -/
theorem winding_down_untold :
    let idle : Timeline Script :=
      (start (.fresh .loggedOut .unknown "org" 64) {}).withPoller { stopWithin := 0 } false
    let stopped := idle.startPoller.2.stopPoller Script.source .finished
    stopped.1 = .error (.timeout 0) ∧
      stopped.2.loops.map Poller.Loop.token = [⟨0, true⟩] ∧
      stopped.2.isRunning = false ∧
      (stopped.2.stopPoller Script.source .finished).1 = .error .notRunning ∧
      stopped.2.startPoller.1 = .ok () ∧
      ¬ ∀ t : Timeline Script, Managed t → (t.isRunning = true ↔ t.loops ≠ []) := by
  intro idle stopped
  have managed : Managed stopped.2 := (Managed.new rfl _ _).start.stopPoller _ _
  have alive : stopped.2.loops.map Poller.Loop.token = [⟨0, true⟩] := by
    unfold stopped idle
    rfl
  have notRunning : stopped.2.isRunning = false := by
    unfold stopped idle
    rfl
  refine ⟨?_, alive, notRunning, ?_, ?_, fun always => ?_⟩
  · unfold stopped idle
    rfl
  · unfold stopped idle
    rfl
  · unfold stopped idle
    rfl
  · have running := (always _ managed).mpr fun gone => by simp [gone] at alive
    rw [notRunning] at running
    cases running

end Timeline

end MetricWatch
