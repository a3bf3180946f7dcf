import MetricWatch.Proofs.Polling.LoopState
import MetricWatch.Timeline.Script

/-!
# The life of a poller

A poller is started, stopped and given up in any order, while its loops go on and end in their own
time. However that comes about, no two of its loops are ever free to go on, and a loop that is free
is the one that the next stop waits for. The main statement is `Managed.single_loop`.
-/

namespace MetricWatch

open Poller (Token)

/-! ### The loops that a poller owns -/

namespace LoopState

/-- Whether the poller has a loop that it would wait for. -/
def isRunning (r : LoopState) : Bool :=
  match r.poller.bind Poller.handle with
  | some id => r.tokens.any fun k => k.id = id
  | none => false

/-- The state of the loops after another one has begun for a poller. -/
def begin (r : LoopState) (p : Poller) : LoopState :=
  ⟨some { p with handle := some r.loopCount, current := some r.loopCount }, r.loopCount + 1,
    r.tokens ++ [⟨r.loopCount, false⟩]⟩

/-- The state of the loops after a poller cancelled the one that it last began. -/
def cancel (r : LoopState) (p : Poller) : LoopState :=
  { r with
    tokens := r.tokens.map fun k =>
      if p.current = some k.id then { k with cancelled := true } else k }

/-- Whether every loop that has not ended is cancelled. -/
def Cancelled (r : LoopState) : Prop := ∀ k ∈ r.tokens, k.cancelled = true

/-- Whether a poller owns its loops: numbers are not given twice, and a loop that is not cancelled is
the one that the poller would wait for and the one that it would cancel. -/
structure Owned (r : LoopState) : Prop where
  given : ∀ k ∈ r.tokens, k.id < r.loopCount
  distinct : (r.tokens.map Token.id).Nodup
  held : ∀ k ∈ r.tokens, k.cancelled = false →
    ∃ p, r.poller = some p ∧ p.handle = some k.id ∧ p.current = some k.id

variable {r r' : LoopState} {p : Poller}

lemma ids_cancel (r : LoopState) (p : Poller) :
    (r.cancel p).tokens.map Token.id = r.tokens.map Token.id := by
  simp only [cancel, List.map_map]
  refine List.map_congr_left fun k _ => ?_
  simp only [Function.comp_apply]
  split <;> rfl

namespace Owned

/-- Where all loops are cancelled, it does not matter what the poller holds. -/
lemma of_cancelled (h : r.Owned) (ids : r'.tokens.map Token.id = r.tokens.map Token.id)
    (loopCount : r'.loopCount = r.loopCount) (cancelled : r'.Cancelled) : r'.Owned := by
  refine ⟨fun k mem => ?_, ids ▸ h.distinct, fun k mem live => ?_⟩
  · have there := List.mem_map_of_mem (f := Token.id) mem
    rw [ids] at there
    obtain ⟨k', mem', same⟩ := List.mem_map.mp there
    rw [loopCount, ← same]
    exact h.given k' mem'
  · rw [cancelled k mem] at live
    cases live

/-- A poller that is not running has no loop that is free to go on. -/
lemma cancelled_of_idle (h : r.Owned) (idle : r.isRunning = false) : r.Cancelled := by
  intro k mem
  by_contra free
  obtain ⟨p, poller, handle, -⟩ := h.held k mem (by simpa using free)
  have running : r.isRunning = true := by
    simp only [isRunning, poller, Option.bind_some, handle, List.any_eq_true]
    exact ⟨k, mem, by simp⟩
  rw [idle] at running
  cases running

/-- A poller that cancels the loop it last began has no loop left that is free to go on. -/
lemma cancelled_cancel (h : r.Owned) (poller : r.poller = some p) : (r.cancel p).Cancelled := by
  refine List.forall_mem_map.mpr fun k mem => ?_
  split
  next => rfl
  next other =>
    by_contra free
    obtain ⟨p', poller', -, current⟩ := h.held k mem (by simpa using free)
    obtain rfl := Option.some.inj (poller.symm.trans poller')
    exact other current

lemma begin (h : r.Owned) (idle : r.isRunning = false) (p : Poller) : (r.begin p).Owned := by
  have cancelled := h.cancelled_of_idle idle
  refine ⟨?_, ?_, ?_⟩
  · intro k mem
    rcases List.mem_append.mp mem with old | new
    · exact Nat.lt_succ_of_lt (h.given k old)
    · rw [List.mem_singleton.mp new]
      exact Nat.lt_succ_self _
  · have unused : r.loopCount ∉ r.tokens.map Token.id := by
      intro mem
      obtain ⟨k, mem, same⟩ := List.mem_map.mp mem
      exact Nat.ne_of_lt (h.given k mem) same
    simp only [LoopState.begin, List.map_append, List.map_cons, List.map_nil]
    exact List.nodup_append.mpr ⟨h.distinct, List.nodup_singleton _, fun a old b new => by
      rw [List.mem_singleton.mp new]
      exact fun same => unused (same ▸ old)⟩
  · intro k mem live
    rcases List.mem_append.mp mem with old | new
    · rw [cancelled k old] at live
      cases live
    · rw [List.mem_singleton.mp new]
      exact ⟨_, rfl, rfl, rfl⟩

lemma meanwhile (h : r.Owned) (m : Timeline.Meanwhile r r') : r'.Owned := by
  refine ⟨fun k mem => ?_, h.distinct.sublist (m.tokens.map _), fun k mem live => ?_⟩
  · rw [m.loopCount]
    exact h.given k (m.tokens.subset mem)
  · rw [m.poller]
    exact h.held k (m.tokens.subset mem) live

end Owned

/-- Whether one state of the loops comes out of another by cancelling the poller's loop, if it is
running. -/
structure Halts (r r' : LoopState) : Prop where
  loopCount : r'.loopCount = r.loopCount
  tokens : r.isRunning = false ∧ r'.tokens = r.tokens ∨
    ∃ p, r.poller = some p ∧ r'.tokens = (r.cancel p).tokens

/-- Nothing is free to go on after a poller was stopped or given up. -/
lemma Owned.halts (h : r.Owned) (halts : Halts r r') : r'.Cancelled ∧ r'.Owned := by
  have cancelled : r'.Cancelled ∧ r'.tokens.map Token.id = r.tokens.map Token.id := by
    rcases halts.tokens with ⟨idle, same⟩ | ⟨p, poller, same⟩
    · exact ⟨fun k mem => h.cancelled_of_idle idle k (same ▸ mem), congrArg _ same⟩
    · exact ⟨fun k mem => h.cancelled_cancel poller k (same ▸ mem),
        (congrArg _ same).trans (ids_cancel r p)⟩
  exact ⟨cancelled.1, h.of_cancelled cancelled.2 halts.loopCount cancelled.1⟩

lemma Cancelled.meanwhile (h : r.Cancelled) (m : Timeline.Meanwhile r r') : r'.Cancelled :=
  fun k mem => h k (m.tokens.subset mem)

end LoopState

namespace Timeline

variable {σ : Type} {S : Source σ} {t t' : Timeline σ}

/-! ### What is done with a poller -/

lemma isRunning_loopState (t : Timeline σ) : t.loopState.isRunning = t.isRunning := by
  have same (id : Nat) : (t.loops.map Poller.Loop.token).any (fun k => k.id = id)
      = (t.loop? id).isSome := by
    rw [loop?, List.isSome_find?, List.any_map]
    rfl
  cases handle : t.poller.bind Poller.handle with
  | none => simp only [LoopState.isRunning, isRunning, loopState, handle]
  | some id => simp only [LoopState.isRunning, isRunning, loopState, handle, same]

/-- The poller begins to stop: its loop is cancelled, and no longer the one it would wait for. -/
def haltPoller (t : Timeline σ) : Timeline σ :=
  match t.poller with
  | none => t
  | some p =>
    if t.isRunning then
      { (t.note (.info "Stopping metrics poller")).cancelLoop p with
        poller := some { p with handle := none } }
    else t

@[simp] lemma loopState_beginLoop (t : Timeline σ) (p : Poller) :
    (t.beginLoop p).loopState = t.loopState.begin p := by
  unfold beginLoop
  rw [loopState_wake]
  simp [loopState, LoopState.begin, Poller.Loop.token]

@[simp] lemma loopState_cancelLoop (t : Timeline σ) (p : Poller) :
    (t.cancelLoop p).loopState = t.loopState.cancel p := by
  unfold cancelLoop LoopState.cancel
  cases p.current with
  | none => simp [loopState]
  | some id =>
    dsimp only
    rw [loopState_wake]
    simp only [loopState, changeLoop, List.map_map, LoopState.mk.injEq, true_and]
    refine List.map_congr_left fun l _ => ?_
    by_cases own : l.id = id
    · simp [Poller.Loop.token, own]
    · simp [Poller.Loop.token, own, Ne.symm own]

lemma startPoller_of_running (running : t.isRunning = true) :
    t.startPoller = (.error .alreadyRunning, t) := by
  unfold startPoller
  cases poller : t.poller with
  | none => simp [isRunning, poller] at running
  | some p => simp [running]

lemma startPoller_of_idle {p : Poller} (poller : t.poller = some p)
    (idle : t.isRunning = false) :
    t.startPoller = (.ok (), (t.note (.info "Starting metrics poller")).beginLoop p) := by
  simp [startPoller, poller, idle]

lemma startPoller_of_absent (absent : t.poller = none) : t.startPoller.2 = t := by
  simp [startPoller, absent]

lemma haltPoller_of_running {p : Poller} (poller : t.poller = some p)
    (running : t.isRunning = true) :
    t.haltPoller = { (t.note (.info "Stopping metrics poller")).cancelLoop p with
      poller := some { p with handle := none } } := by
  simp [haltPoller, poller, running]

lemma haltPoller_of_idle (idle : t.isRunning = false) : t.haltPoller = t := by
  unfold haltPoller
  split
  · rfl
  · simp [idle]

lemma stopPoller_of_idle (S : Source σ) (exit : Poller.Exit) (idle : t.isRunning = false) :
    t.stopPoller S exit = (.error .notRunning, t) := by
  unfold stopPoller
  split <;> simp [idle]

/-- A stop of a running poller begins with the cancellation. In time its loop is gone, and it tells
how that ended; or it waits in vain. -/
lemma stopPoller_of_running (S : Source σ) (exit : Poller.Exit) {p : Poller}
    (poller : t.poller = some p) (running : t.isRunning = true) :
    Meanwhile t.haltPoller.loopState (t.stopPoller S exit).2.loopState ∧
      ((t.stopPoller S exit).1 = exit.joined ∧
          (∀ id, p.handle = some id → (t.stopPoller S exit).2.loop? id = none) ∨
        (t.stopPoller S exit).1 = .error (.timeout (p.timing.stopWithin / 1000))) := by
  let gone (t : Timeline σ) : Bool := p.handle.all fun id => (t.loop? id).isNone
  have waiting := waitUntil_meanwhile S gone p.timing.stopWithin t.haltPoller
  have isGone : (t.haltPoller.waitUntil S gone p.timing.stopWithin).1 = true →
      ∀ id, p.handle = some id →
        (t.haltPoller.waitUntil S gone p.timing.stopWithin).2.loop? id = none := by
    intro arrived id handle
    have holds : p.handle.all (fun id => ((t.haltPoller.waitUntil S gone
        p.timing.stopWithin).2.loop? id).isNone) = true := waitWithin_holds S gone _ _ _ arrived
    rw [handle, Option.all_some] at holds
    exact Option.isNone_iff_eq_none.mp holds
  rw [haltPoller_of_running poller running] at waiting isGone ⊢
  unfold stopPoller
  rw [poller]
  simp only [running, if_true]
  split
  · exact ⟨.refl _, .inr rfl⟩
  · split
    next arrived =>
      cases exit with
      | finished => exact ⟨waiting, .inl ⟨rfl, isGone arrived⟩⟩
      | broke => exact ⟨waiting, .inl ⟨rfl, isGone arrived⟩⟩
    next => exact ⟨waiting, .inr rfl⟩

/-- The timelines of a poller from its beginning: it is started, stopped and given up in any order,
and its loops go on, end or break down at any time between. Of a stop only the beginning is
prescribed; how the wait for the loop ends is part of what happens meanwhile. -/
inductive Managed : Timeline σ → Prop
  | new {t : Timeline σ} (none : t.loops = []) (timing : Poller.Timing) (refreshes : Bool) :
      Managed (t.withPoller timing refreshes)
  | start {t : Timeline σ} (managed : Managed t) : Managed t.startPoller.2
  | stop {t : Timeline σ} (managed : Managed t) : Managed t.haltPoller
  | drop {t : Timeline σ} (managed : Managed t) : Managed t.releasePoller
  | meanwhile {t t' : Timeline σ} (managed : Managed t) (m : Meanwhile t.loopState t'.loopState) :
      Managed t'

/-- A stop with its wait, however it ends, is one of the things that are done with a poller. -/
lemma Managed.stopPoller (managed : Managed t) (S : Source σ) (exit : Poller.Exit) :
    Managed (t.stopPoller S exit).2 := by
  cases running : t.isRunning with
  | false =>
    rw [stopPoller_of_idle S exit running]
    exact managed
  | true =>
    cases poller : t.poller with
    | none => simp [isRunning, poller] at running
    | some p => exact managed.stop.meanwhile (stopPoller_of_running S exit poller running).1

/-! ### The invariant -/

lemma inHand_start (h : t.loopState.Owned) : t.startPoller.2.loopState.Owned := by
  cases running : t.isRunning with
  | true =>
    rw [startPoller_of_running running]
    exact h
  | false =>
    cases poller : t.poller with
    | none => simpa [Timeline.startPoller, poller] using h
    | some p =>
      rw [startPoller_of_idle poller running, loopState_beginLoop, loopState_note]
      exact h.begin ((isRunning_loopState t).trans running) p

lemma halts_of_idle {r : LoopState} (idle : t.isRunning = false)
    (loopCount : r.loopCount = t.loopCount)
    (tokens : r.tokens = t.loopState.tokens) : LoopState.Halts t.loopState r :=
  ⟨loopCount, .inl ⟨(isRunning_loopState t).trans idle, tokens⟩⟩

lemma isRunning_of_absent (absent : t.poller = none) : t.isRunning = false := by
  simp [isRunning, absent]

lemma halts_cancelLoop {p : Poller} (poller : t.poller = some p) (n : Note)
    (rest : Option Poller) :
    LoopState.Halts t.loopState
      ({ (t.note n).cancelLoop p with poller := rest } : Timeline σ).loopState := by
  have cancel : ((t.note n).cancelLoop p).loopState = t.loopState.cancel p :=
    loopState_cancelLoop ..
  have loopCount : ((t.note n).cancelLoop p).loopCount = t.loopCount :=
    congrArg LoopState.loopCount cancel
  have tokens : ((t.note n).cancelLoop p).loopState.tokens = (t.loopState.cancel p).tokens :=
    congrArg LoopState.tokens cancel
  exact ⟨loopCount, .inr ⟨p, poller, tokens⟩⟩

lemma halts_haltPoller (t : Timeline σ) : LoopState.Halts t.loopState t.haltPoller.loopState := by
  unfold haltPoller
  split
  next absent => exact halts_of_idle (isRunning_of_absent absent) rfl rfl
  next p poller =>
    split
    next => exact halts_cancelLoop poller _ _
    next idle => exact halts_of_idle (by simpa using idle) rfl rfl

lemma halts_releasePoller (t : Timeline σ) :
    LoopState.Halts t.loopState t.releasePoller.loopState := by
  unfold releasePoller
  split
  next absent => exact halts_of_idle (isRunning_of_absent absent) rfl rfl
  next p poller =>
    dsimp only
    split
    next => exact halts_cancelLoop poller _ _
    next idle => exact halts_of_idle (by simpa using idle) rfl rfl

/-- A poller owns its loops all along its life. -/
theorem Managed.owned (managed : Managed t) : t.loopState.Owned := by
  induction managed with
  | new none => refine ⟨?_, ?_, ?_⟩ <;> simp [loopState, withPoller, none]
  | start _ ih => exact inHand_start ih
  | stop _ ih => exact (ih.halts (halts_haltPoller _)).2
  | drop _ ih => exact (ih.halts (halts_releasePoller _)).2
  | meanwhile _ m ih => exact ih.meanwhile m

/-! ### Beginning again -/

/-- What may happen to the loop of a number between its beginning and the stop that is meant for
it: the poller is started again, which it may refuse, loops of other numbers are cancelled, and
loops go on or end. -/
inductive Onward (id : Nat) (t : Timeline σ) : Timeline σ → Prop
  | refl : Onward id t t
  | start {t' : Timeline σ} (path : Onward id t t') : Onward id t t'.startPoller.2
  | cancel {t' : Timeline σ} (path : Onward id t t') {p : Poller} (other : p.current ≠ some id) :
      Onward id t (t'.cancelLoop p)
  | meanwhile {t' t'' : Timeline σ} (path : Onward id t t')
    (m : Meanwhile t'.loopState t''.loopState) :
      Onward id t t''

/-- Nobody has cancelled the loop of a number, and no loop will be given the number again. -/
structure IsFree (r : LoopState) (id : Nat) : Prop where
  given : id < r.loopCount
  free : ∀ k ∈ r.tokens, k.id = id → k.cancelled = false

lemma Onward.isFree {id : Nat} (onward : Onward id t t') (h : IsFree t.loopState id) :
    IsFree t'.loopState id := by
  induction onward with
  | refl => exact h
  | @start u _ ih =>
    cases running : u.isRunning with
    | true =>
      rw [startPoller_of_running running]
      exact ih
    | false =>
      cases poller : u.poller with
      | none => simpa [Timeline.startPoller, poller] using ih
      | some p =>
        rw [startPoller_of_idle poller running, loopState_beginLoop, loopState_note]
        refine ⟨Nat.lt_succ_of_lt ih.given, fun k mem own => ?_⟩
        rcases List.mem_append.mp mem with old | new
        · exact ih.free k old own
        · rw [List.mem_singleton.mp new]
  | cancel _ other ih =>
    rw [loopState_cancelLoop]
    refine ⟨ih.given, List.forall_mem_map.mpr fun k mem => ?_⟩
    split
    next current =>
      rintro rfl
      exact absurd current other
    next => exact ih.free k mem
  | meanwhile _ m ih =>
    exact ⟨m.loopCount ▸ ih.given, fun k mem => ih.free k (m.tokens.subset mem)⟩

/-- What a start does to a poller that is not running: it begins a loop with a number of its own,
the only one that is free to go on, and nothing that was meant for other loops can cancel it. -/
structure StartsAfresh (t : Timeline σ) : Prop where
  ok : t.startPoller.1 = .ok ()
  unused : ∀ l ∈ t.loops, l.id ≠ t.loopCount
  begun : ∃ l ∈ t.startPoller.2.loops, l.id = t.loopCount ∧ l.cancelled = false
  ready : .loop t.loopCount ∈ t.startPoller.2.ready
  running : t.startPoller.2.isRunning = true
  alone : ∀ l ∈ t.startPoller.2.loops, l.id ≠ t.loopCount → l.cancelled = true
  unstoppable : ∀ t' : Timeline σ, Onward t.loopCount t.startPoller.2 t' →
    ∀ l ∈ t'.loops, l.id = t.loopCount → l.cancelled = false

lemma mem_ready_wake (t : Timeline σ) (task : TaskId) : task ∈ (t.wake task).ready := by
  unfold wake
  split
  next there => exact there
  next => simp

lemma mem_tokens {l : Poller.Loop} (mem : l ∈ t.loops) : l.token ∈ t.loopState.tokens :=
  List.mem_map_of_mem mem

lemma startsAfresh (h : t.loopState.Owned) {p : Poller} (poller : t.poller = some p)
    (idle : t.isRunning = false) : StartsAfresh t := by
  have started := startPoller_of_idle poller idle
  have begun : t.startPoller.2.loopState = t.loopState.begin p := by
    rw [started, loopState_beginLoop, loopState_note]
  have cancelled := h.cancelled_of_idle ((isRunning_loopState t).trans idle)
  have newToken : (⟨t.loopCount, false⟩ : Token) ∈ t.startPoller.2.loopState.tokens := by
    rw [begun]
    exact List.mem_append_right _ (List.mem_singleton_self _)
  have oldOrNew {k : Token} (mem : k ∈ t.startPoller.2.loopState.tokens) :
      k ∈ t.loopState.tokens ∨ k = ⟨t.loopCount, false⟩ := by
    rw [begun] at mem
    simpa [LoopState.begin, loopState] using mem
  have unused (l : Poller.Loop) (mem : l ∈ t.loops) : l.id ≠ t.loopCount :=
    Nat.ne_of_lt (h.given _ (mem_tokens mem))
  refine ⟨by rw [started], unused, ?_, ?_, ?_, ?_, ?_⟩
  · obtain ⟨l, mem, same⟩ := List.mem_map.mp newToken
    exact ⟨l, mem, congrArg Token.id same, congrArg Token.cancelled same⟩
  · rw [started]
    exact mem_ready_wake _ _
  · rw [← isRunning_loopState, begun]
    simp [LoopState.isRunning, LoopState.begin]
  · intro l mem other
    rcases oldOrNew (mem_tokens mem) with old | new
    · exact cancelled _ old
    · exact absurd (congrArg Token.id new) other
  · intro t' onward l mem own
    have isFree : IsFree t.startPoller.2.loopState t.loopCount := by
      refine ⟨?_, fun k mem own => ?_⟩
      · rw [begun]
        exact Nat.lt_succ_self _
      · rcases oldOrNew mem with old | new
        · exact absurd own (Nat.ne_of_lt (h.given k old))
        · rw [new]
    exact (onward.isFree isFree).free _ (mem_tokens mem) own

/-! ### One loop at a time -/

/-- What holds at every moment in the life of a poller. -/
structure SingleLoop (S : Source σ) (t : Timeline σ) : Prop where
  /-- At most one loop has not ended and is not cancelled. -/
  atMostOne : ∀ l ∈ t.loops, ∀ l' ∈ t.loops, l.cancelled = false → l'.cancelled = false → l = l'
  /-- If there is one, it is the loop in the poller's handle. -/
  inHandle : ∀ l ∈ t.loops, l.cancelled = false → t.poller.bind Poller.handle = some l.id
  /-- A poller that is running refuses to start, and nothing changes. -/
  alreadyRunning : t.isRunning = true → t.startPoller = (.error .alreadyRunning, t)
  /-- A poller that is not running refuses to stop, and nothing changes. -/
  notRunning : t.isRunning = false → ∀ exit, t.stopPoller S exit = (.error .notRunning, t)
  /-- A poller that is not running starts afresh, unless it was given up. -/
  starts : t.poller.isSome = true → t.isRunning = false → StartsAfresh t
  /-- A stop of a running poller succeeds when its loop ends in time, fails to join it when the loop
  breaks down instead, or times out. -/
  stops : ∀ p exit, t.poller = some p → t.isRunning = true →
    Meanwhile t.haltPoller.loopState (t.stopPoller S exit).2.loopState ∧
      ((t.stopPoller S exit).1 = exit.joined ∧
          (∀ id, p.handle = some id → (t.stopPoller S exit).2.loop? id = none) ∨
        (t.stopPoller S exit).1 = .error (.timeout (p.timing.stopWithin / 1000)))
  /-- Whatever a stop was waiting for, and however that went, the poller starts afresh
  afterwards. -/
  restarts : t.isRunning = true → ∀ t' : Timeline σ, Meanwhile t.haltPoller.loopState t'.loopState →
    t'.isRunning = false ∧ (∀ l ∈ t'.loops, l.cancelled = true) ∧ StartsAfresh t'
  /-- Once the poller is given up, every loop that has not ended is cancelled. -/
  drops : ∀ t' : Timeline σ, Meanwhile t.releasePoller.loopState t'.loopState → ∀ l ∈ t'.loops,
    l.cancelled = true

lemma poller_haltPoller {p : Poller} (poller : t.poller = some p) (running : t.isRunning = true) :
    t.haltPoller.poller = some { p with handle := none } := by
  rw [haltPoller_of_running poller running]

/-- A poller never has two loops that are free to go on, and the one it may have is the one that
the next stop cancels and waits for. -/
theorem Managed.single_loop (managed : Managed t) (S : Source σ) : SingleLoop S t := by
  have owned := managed.owned
  have held (l : Poller.Loop) (mem : l ∈ t.loops) (free : l.cancelled = false) :
      t.poller.bind Poller.handle = some l.id := by
    obtain ⟨p, poller, handle, -⟩ := owned.held _ (mem_tokens mem) free
    have poller : t.poller = some p := poller
    rw [poller]
    exact handle
  refine ⟨?_, held, startPoller_of_running,
    fun idle exit => stopPoller_of_idle S exit idle, ?_,
    fun p exit poller running => stopPoller_of_running S exit poller running, ?_, ?_⟩
  · intro l mem l' mem' free free'
    have same : l.id = l'.id := by
      have handle := held l mem free
      rw [held l' mem' free'] at handle
      exact (Option.some.inj handle).symm
    have distinct : (t.loops.map fun l => l.id).Nodup := by
      simpa [loopState, Function.comp_def, Poller.Loop.token] using owned.distinct
    exact List.inj_on_of_nodup_map distinct mem mem' same
  · intro isSome idle
    obtain ⟨p, poller⟩ := Option.isSome_iff_exists.mp isSome
    exact startsAfresh owned poller idle
  · intro running t' m
    cases poller : t.poller with
    | none => simp [isRunning, poller] at running
    | some p =>
      have after : t'.poller = some { p with handle := none } :=
        m.poller.trans (poller_haltPoller poller running)
      have idle : t'.isRunning = false := by simp [isRunning, after]
      have cancelled := (owned.halts (halts_haltPoller t)).1.meanwhile m
      have managed' : Managed t' := managed.stop.meanwhile m
      exact ⟨idle, fun l mem => cancelled _ (mem_tokens mem),
        startsAfresh managed'.owned after idle⟩
  · intro t' m l mem
    exact (owned.halts (halts_releasePoller t)).1.meanwhile m _ (mem_tokens mem)

/-- A poller that does not wait for its loop is stopped and started again, so that there are two
loops that have not ended. Another waits, but its loop breaks down; it is started again as well. -/
theorem single_loop_restarted :
    let idle (stopWithin : Nat) : Timeline Script :=
      (start (.fresh .loggedOut .unknown "org" 64) {}).withPoller { stopWithin := stopWithin } false
    let stopped := (idle 0).startPoller.2.stopPoller Script.source .finished
    let restarted := stopped.2.startPoller.2
    let broken := (idle 5000).startPoller.2.stopPoller Script.source (.broke "task 3 panicked")
    let again := broken.2.startPoller.2
    stopped.1 = .error (.timeout 0) ∧
      restarted.loops.map Poller.Loop.token = [⟨0, true⟩, ⟨1, false⟩] ∧
      (Managed restarted ∧ SingleLoop Script.source restarted) ∧
      broken.1 = .error (.taskJoinFailed "task 3 panicked") ∧
      again.loops.map Poller.Loop.token = [⟨1, false⟩] ∧
      Managed again ∧ SingleLoop Script.source again := by
  intro idle stopped restarted broken again
  have managed : Managed restarted := ((Managed.new rfl _ _).start.stopPoller _ _).start
  have managed' : Managed again := ((Managed.new rfl _ _).start.stopPoller _ _).start
  refine ⟨?_, ?_, ⟨managed, managed.single_loop _⟩, ?_, ?_, managed', managed'.single_loop _⟩
  · unfold stopped idle
    rfl
  · unfold restarted stopped idle
    rfl
  · unfold broken idle
    rfl
  · unfold again broken idle
    rfl

end Timeline

end MetricWatch
