import MetricWatch.Proofs.Polling.Solo
import MetricWatch.Timeline.Script

/-!
# The two schedules are independent

Two runs of a poller that differ in whatever concerns one of the schedules only, how its questions
are answered included, are the same at every moment on the side of the other schedule, until the
poller is stopped: both show how that schedule goes on its own. The main statement is
`Alongside.independent`.
-/

namespace MetricWatch

/-! ### What concerns a schedule -/

/-- Whether a chore is no concern of a schedule. -/
def Chore.Spares : Chore → Poller.Which → Prop
  | .updateNodes _, .list => True
  | .add _ _, .names | .remove _ _, .names | .addGlobal _, .names | .removeGlobal _, .names => True
  | .subscribe _, _ | .unsubscribe _, _ | .receive _, _ => True
  | _, _ => False

namespace Store

lemma side_side (s : Store) (which : Poller.Which) : (s.side which).side which = s.side which := by
  cases which <;> simp [side]

/-- Subscribers come, go and take events, but they do not change what was sent. -/
lemma side_of_sent {s s' : Store} (channel : s' = { s with channel := s'.channel })
    (sent : s'.channel.sent = s.channel.sent) (which : Poller.Which) : s'.side which = s.side which := by
  rw [channel]
  cases which <;> simp [side, sent]

lemma side_receive (s : Store) (subscriber : String) (which : Poller.Which) :
    (s.perform (.receive subscriber)).side which = s.side which := by
  refine side_of_sent ?_ (sent_perform s (.receive subscriber)) which
  simp only [perform]
  split <;> rfl

/-- What a chore does to a side depends on the side. -/
lemma side_perform (s : Store) (c : Chore) (which : Poller.Which) :
    (s.perform c).side which = ((s.side which).perform c).side which := by
  cases c with
  | receive subscriber => rw [side_receive, side_receive, side_side]
  | subscribe subscriber | unsubscribe subscriber =>
    refine Eq.trans ?_ (Eq.trans (side_side s which).symm ?_)
    · exact side_of_sent rfl rfl which
    · exact (side_of_sent rfl rfl which).symm
  | _ => cases which <;> simp [perform, side, register, updateNodes]

lemma side_perform_other {c : Chore} {which : Poller.Which} (spares : c.Spares which) (s : Store) :
    (s.perform c).side which = s.side which := by
  cases c with
  | receive subscriber => exact side_receive ..
  | subscribe | unsubscribe => exact side_of_sent rfl rfl which
  | updateNodes =>
    cases which with
    | list => rfl
    | names => exact absurd spares not_false
  | changeSession => cases which <;> exact absurd spares not_false
  | add | remove | addGlobal | removeGlobal =>
    cases which with
    | list => exact absurd spares not_false
    | names => rfl

end Store

namespace Timeline

variable {σ₁ σ₂ σ π : Type} {S : Source σ} {S₁ : Source σ₁} {S₂ : Source σ₂} {O : Source π}
  {part : σ → π} {part₁ : σ₁ → π} {part₂ : σ₂ → π} {which : Poller.Which} {t : Timeline σ}
  {u : Timeline π} {t₁ : Timeline σ₁} {t₂ : Timeline σ₂}

/-- Whether something done from outside is a concern of a schedule, but no call for its rounds and
no stop. -/
def Act.Concerns (which : Poller.Which) : Act → Prop
  | .chore _ | .startPoller => True
  | .setGate kind _ => kind = kindOf which
  | _ => False

/-- Whether something done from outside is no concern of a schedule. -/
def Act.Spares (which : Poller.Which) : Act → Prop
  | .see _ _ | .abandon _ | .releaseStore | .note _ => True
  | .call kind | .spawn kind | .setGate kind _ => kind ≠ kindOf which
  | .chore c => c.Spares which
  | .startPoller | .haltPoller | .releasePoller => False

/-! ### What is done from outside -/

lemma side_setGate (t : Timeline σ) (part : σ → π) (which : Poller.Which) (isOpen : Bool) :
    (t.setGate (kindOf which) isOpen).side part which
      = { t.side part which with isOpen := isOpen } := by
  cases which <;> cases isOpen <;> simp only [setGate, kindOf, wakeAll_eq] <;> rfl

lemma side_setGate_other {kind : RoundKind} (other : kind ≠ kindOf which) (t : Timeline σ)
    (part : σ → π) (isOpen : Bool) :
    (t.setGate kind isOpen).side part which = t.side part which := by
  cases which <;> cases kind <;> first
    | exact absurd rfl other
    | (cases isOpen <;> simp only [setGate, wakeAll_eq] <;> rfl)

lemma side_beginLoop (t : Timeline σ) (part : σ → π) (which : Poller.Which) (p : Poller) :
    (t.beginLoop p).side part which = { t.side part which with
      poller := some { p with handle := some t.loopCount, current := some t.loopCount }
      loopCount := t.loopCount + 1
      lanes := (t.side part which).lanes ++ [(newLoop t p).lane which] } := by
  unfold beginLoop
  rw [side_wake]
  simp only [side, List.map_append]
  cases which <;> rfl

/-- What is no concern of a schedule leaves its side alone. -/
lemma side_act_other {a : Act} (spares : a.Spares which) (t : Timeline σ) (part : σ → π) :
    (t.act a).side part which = t.side part which := by
  cases a with
  | call kind => exact side_call_other spares t part
  | see kind round => exact side_see ..
  | spawn kind => exact side_wake ..
  | setGate kind isOpen => exact side_setGate_other spares ..
  | chore c =>
    have store := Store.side_perform_other spares t.store
    simp only [act, side, store]
    cases which <;> rfl
  | abandon | releaseStore | note => rfl
  | startPoller | haltPoller | releasePoller => exact absurd spares not_false

namespace Shows

lemma loopCount (h : Shows part which t u) : t.loopCount = u.loopCount :=
  congrArg Side.loopCount h

lemma isRunning (h : Shows part which t u) : t.isRunning = u.isRunning := by
  unfold Timeline.isRunning
  rw [h.poller]
  cases u.poller.bind Poller.handle with
  | none => rfl
  | some loop =>
    have lanes := congrArg Option.isSome (h.loop? loop)
    simpa only [Option.isSome_map] using lanes

lemma beginLoop (h : Shows part which t u) (p : Poller) :
    Shows part which (t.beginLoop p) (u.beginLoop p) := by
  have begun : newLoop t p = newLoop u p := by
    unfold newLoop
    rw [h.loopCount, h.now]
  unfold Shows
  rw [side_beginLoop, side_beginLoop, begun, h.loopCount, h]

lemma startPoller (h : Shows part which t u) :
    Shows part which t.startPoller.2 u.startPoller.2 := by
  cases running : t.isRunning with
  | true =>
    rw [startPoller_of_running running, startPoller_of_running (h.isRunning ▸ running)]
    exact h
  | false =>
    cases poller : t.poller with
    | none =>
      rw [startPoller_of_absent poller, startPoller_of_absent (h.poller ▸ poller)]
      exact h
    | some p =>
      rw [startPoller_of_idle poller running,
        startPoller_of_idle (h.poller ▸ poller) (h.isRunning ▸ running)]
      exact beginLoop (t := t.note _) (u := u.note _) h p

/-- What is a concern of a schedule does the same on the same side. -/
lemma act (h : Shows part which t u) {a : Act} (concerns : a.Concerns which) :
    Shows part which (t.act a) (u.act a) := by
  cases a with
  | chore c =>
    have chore {ρ : Type} (v : Timeline ρ) (part : ρ → π) : (v.act (.chore c)).side part which
        = { v.side part which with
          store := ((v.side part which).store.perform c).side which } := by
      have store := v.store.side_perform c which
      simp only [Timeline.act, side, store]
      cases which <;> rfl
    unfold Shows
    rw [chore, chore, h]
  | setGate kind isOpen =>
    obtain rfl : kind = kindOf which := concerns
    unfold Shows Timeline.act
    rw [side_setGate, side_setGate, h]
  | startPoller => exact h.startPoller
  | call | see | spawn | abandon | releaseStore | haltPoller | releasePoller | note =>
    exact absurd concerns not_false

end Shows

/-! ### Nothing comes between -/

namespace Steady

/-- What is no concern of a schedule does not come between the schedule and its rounds. -/
lemma act_other (h : Steady S which t) (attentive : Attentive S t) {a : Act}
    (spares : a.Spares which) : Steady S which (t.act a) := by
  have sound := (attentive.act a).sound
  have alone := h.alone
  cases a with
  | call kind =>
    have poller : (t.call kind).2.poller = t.poller :=
      congrArg LoopState.poller (t.loopState_call kind)
    refine ⟨sound, ?_⟩
    unfold act
    rw [poller]
    rcases taskState_call h.sound.isAhead kind with ⟨-, same⟩ | ⟨round, -, enters⟩
    · rw [same]
      exact alone
    · exact alone.enters spares enters
  | spawn kind =>
    have taskState : (t.spawn kind).2.taskState = { t.taskState with
        callers := t.callers ++ [⟨t.callers.length, kind, .begun⟩]
        ready := woken t.ready (.caller t.callers.length) } := taskState_wake _ _
    have poller : (t.spawn kind).2.poller = t.poller :=
      congrArg LoopState.poller (loopState_wake _ _)
    refine ⟨sound, ?_⟩
    unfold act
    rw [poller, taskState]
    refine ⟨alone.live, alone.running, alone.held, fun c mem => ?_, alone.awaited⟩
    rcases List.mem_append.mp mem with old | new
    · exact alone.others c old
    · rw [List.mem_singleton.mp new]
      exact spares
  | abandon id =>
    refine ⟨sound, alone.live, alone.running, alone.held, List.forall_mem_map.mpr fun c mem => ?_,
      alone.awaited⟩
    split
    · split <;> exact alone.others c mem
    · exact alone.others c mem
  | setGate kind isOpen =>
    have taskState := taskState_setGate t kind isOpen
    exact h.of_loops sound (congrArg TaskState.loops taskState)
      (congrArg TaskState.callers taskState)
      (congrArg TaskState.fetches taskState)
      (congrArg LoopState.poller (loopState_setGate t kind isOpen))
  | see kind round =>
    have taskState := taskState_see t kind round
    exact h.of_loops sound (congrArg TaskState.loops taskState)
      (congrArg TaskState.callers taskState)
      (congrArg TaskState.fetches taskState)
      (congrArg LoopState.poller (t.loopState_see kind round))
  | chore | releaseStore | note => exact h.of_loops sound rfl rfl rfl rfl
  | startPoller | haltPoller | releasePoller => exact absurd spares not_false

/-- A poller that starts has but one loop. -/
lemma starts (h : Steady S which t) (attentive : Attentive S t) {t' : Timeline σ}
    (starts : t.Starts t') : Steady S which t' := by
  have sound := (attentive.starts starts).sound
  cases starts with
  | not => exact h
  | @begins p poller idle =>
    have none : t.loops = [] := by
      refine List.eq_nil_iff_forall_not_mem.mpr fun l isThere => ?_
      have held := h.alone.held l isThere
      have found : t.loop? l.id = some l := h.sound.fit.loop?_of_mem isThere
      simp [isRunning, held, found] at idle
    have only : ∀ l ∈ t.loops ++ [newLoop t p], l = newLoop t p := by
      rw [none]
      exact fun l mem => List.mem_singleton.mp mem
    have current : ((t.note (.info "Starting metrics poller")).beginLoop p).poller
        = some { p with handle := some t.loopCount, current := some t.loopCount } :=
      congrArg LoopState.poller (loopState_beginLoop (t.note _) p)
    refine ⟨sound, ?_⟩
    rw [taskState_beginLoop, current]
    refine ⟨fun l mem => ?_, fun l mem which => ?_, fun l mem => ?_, h.alone.others,
      fun f mem own => ?_⟩
    · rw [only l mem]
      rfl
    · rw [only l mem]
      cases which <;> rfl
    · rw [only l mem]
      rfl
    · obtain ⟨l, isThere, -⟩ := h.alone.awaited f mem own
      have isThere : l ∈ t.loops := isThere
      rw [none] at isThere
      cases isThere

lemma act (h : Steady S which t) (attentive : Attentive S t) {a : Act}
    (concerns : a.Concerns which) : Steady S which (t.act a) := by
  have sound := (attentive.act a).sound
  cases a with
  | chore => exact h.of_loops sound rfl rfl rfl rfl
  | setGate kind isOpen =>
    have taskState := taskState_setGate t kind isOpen
    exact h.of_loops sound (congrArg TaskState.loops taskState)
      (congrArg TaskState.callers taskState)
      (congrArg TaskState.fetches taskState)
      (congrArg LoopState.poller (loopState_setGate t kind isOpen))
  | startPoller => exact h.starts attentive t.starts_startPoller
  | call | see | spawn | abandon | releaseStore | haltPoller | releasePoller | note =>
    exact absurd concerns not_false

end Steady

/-! ### Two runs -/

/-- Two runs of a poller, each with a source of its own. They begin with the same configuration as
far as a schedule is concerned, time passes in both, and what concerns the schedule is done to both
at the same moment. What does not concern it is done to either alone. -/
inductive Alongside (S₁ : Source σ₁) (S₂ : Source σ₂) (part₁ : σ₁ → π) (part₂ : σ₂ → π)
    (which : Poller.Which) : Timeline σ₁ → Timeline σ₂ → Prop
  | start {t₁ : Timeline σ₁} {t₂ : Timeline σ₂} (fresh₁ : t₁.IsFresh) (fresh₂ : t₂.IsFresh)
      (store : t₁.store.side which = t₂.store.side which)
      (source : part₁ t₁.source = part₂ t₂.source) (timing : Poller.Timing) (refreshes : Bool) :
      Alongside S₁ S₂ part₁ part₂ which (t₁.withPoller timing refreshes)
        (t₂.withPoller timing refreshes)
  | advance {t₁ : Timeline σ₁} {t₂ : Timeline σ₂}
      (before : Alongside S₁ S₂ part₁ part₂ which t₁ t₂) (millis : Nat) :
      Alongside S₁ S₂ part₁ part₂ which (t₁.advance S₁ millis) (t₂.advance S₂ millis)
  | both {t₁ : Timeline σ₁} {t₂ : Timeline σ₂} (before : Alongside S₁ S₂ part₁ part₂ which t₁ t₂)
      {a : Act} (concerns : a.Concerns which) :
      Alongside S₁ S₂ part₁ part₂ which (t₁.act a) (t₂.act a)
  | first {t₁ : Timeline σ₁} {t₂ : Timeline σ₂} (before : Alongside S₁ S₂ part₁ part₂ which t₁ t₂)
      {a : Act} (spares : a.Spares which) : Alongside S₁ S₂ part₁ part₂ which (t₁.act a) t₂
  | second {t₁ : Timeline σ₁} {t₂ : Timeline σ₂} (before : Alongside S₁ S₂ part₁ part₂ which t₁ t₂)
      {a : Act} (spares : a.Spares which) : Alongside S₁ S₂ part₁ part₂ which t₁ (t₂.act a)

/-- Two timelines that are the same for one of the schedules. -/
structure SameFor (which : Poller.Which) (t₁ : Timeline σ₁) (t₂ : Timeline σ₂) : Prop where
  now : t₁.now = t₂.now
  /-- As many ticks were counted. -/
  ticks : t₁.stats.ticks which = t₂.stats.ticks which
  /-- As many failures were counted. -/
  failures : t₁.stats.failures which = t₂.stats.failures which
  /-- The next tick is due at the same time. -/
  due : t₁.loops.map (fun l => (l.schedule which).due) = t₂.loops.map fun l => (l.schedule which).due
  /-- Every round of the schedule ended the same. -/
  outcomes : t₁.result? (kindOf which) = t₂.result? (kindOf which)
  /-- Subscribers were told the same of the schedule's rounds, with the same times. -/
  told : t₁.store.channel.sent.filter (fun e => e.isOf which)
    = t₂.store.channel.sent.filter fun e => e.isOf which
  /-- The metrics are the same, or the names. -/
  latest : match which with
    | .list => t₁.store.latest = t₂.store.latest
    | .names => t₁.store.listing = t₂.store.listing

/-- Timelines that show the same are the same for the schedule. -/
lemma Shows.sameFor {w : Timeline π} (h₁ : Shows part₁ which t₁ w) (h₂ : Shows part₂ which t₂ w) :
    SameFor which t₁ t₂ := by
  have same : t₁.side part₁ which = t₂.side part₂ which := h₁.trans h₂.symm
  have store : t₁.store.side which = t₂.store.side which := congrArg Side.store same
  refine ⟨congrArg Side.now same, congrArg Side.ticks same, congrArg Side.failures same, ?_, ?_, ?_, ?_⟩
  · have dues := congrArg (fun v : Side π => v.lanes.map fun l => l.schedule.due) same
    simp only [side, List.map_map] at dues
    exact dues
  · funext round
    exact (h₁.result? round).trans (h₂.result? round).symm
  · have sent := congrArg (fun s : Store => s.channel.sent) store
    cases which <;> exact sent
  · cases which with
    | list =>
      have latest := congrArg Store.latest store
      exact latest
    | names =>
      have listing := congrArg Store.listing store
      exact listing

namespace Alongside

/-- What two runs keep: in both the schedule is alone with its rounds, and both show the same way of
the schedule on its own. -/
structure Kept (S₁ : Source σ₁) (S₂ : Source σ₂) (part₁ : σ₁ → π) (part₂ : σ₂ → π)
    (which : Poller.Which) (t₁ : Timeline σ₁) (t₂ : Timeline σ₂) : Prop where
  attentive₁ : Attentive S₁ t₁
  attentive₂ : Attentive S₂ t₂
  steady₁ : Steady S₁ which t₁
  steady₂ : Steady S₂ which t₂
  shown : ∃ w, Shows part₁ which t₁ w ∧ Shows part₂ which t₂ w

lemma side_fresh (fresh : t.IsFresh) (timing : Poller.Timing) (refreshes : Bool) (part : σ → π)
    (which : Poller.Which) : (t.withPoller timing refreshes).side part which =
      { now := 0, store := t.store.side which, source := part t.source, isOpen := true, fetches := []
        poller := some (.fresh timing refreshes), loopCount := 0, lanes := [], ticks := 0
        failures := 0 } := by
  obtain ⟨session, directory, namesNamespace, capacity, source, rfl⟩ := fresh
  cases which <;> rfl

lemma fresh_steady (fresh : t.IsFresh) (timing : Poller.Timing) (refreshes : Bool) :
    Steady S which (t.withPoller timing refreshes) := by
  refine ⟨(Attentive.fresh fresh timing refreshes).sound, ?_⟩
  obtain ⟨session, directory, namesNamespace, capacity, source, rfl⟩ := fresh
  exact ⟨List.forall_mem_nil _, List.forall_mem_nil _, List.forall_mem_nil _, List.forall_mem_nil _,
    List.forall_mem_nil _⟩

lemma kept (shows₁ : S₁.Shows O part₁ which) (shows₂ : S₂.Shows O part₂ which)
    (alongside : Alongside S₁ S₂ part₁ part₂ which t₁ t₂) :
    Kept S₁ S₂ part₁ part₂ which t₁ t₂ := by
  induction alongside with
  | @start t₁ t₂ fresh₁ fresh₂ store source timing refreshes =>
    refine ⟨.fresh fresh₁ timing refreshes, .fresh fresh₂ timing refreshes,
      fresh_steady fresh₁ timing refreshes, fresh_steady fresh₂ timing refreshes,
      (Timeline.start t₁.store (part₁ t₁.source)).withPoller timing refreshes, ?_, ?_⟩
    · rw [Shows, side_fresh fresh₁]
      cases which <;> rfl
    · rw [Shows, side_fresh fresh₂, ← store, ← source]
      cases which <;> rfl
  | @advance t₁ t₂ before millis ih =>
    obtain ⟨attentive₁, attentive₂, steady₁, steady₂, w, shown₁, shown₂⟩ := ih
    have lapse₁ := attentive₁.advance_lapse millis
    have lapse₂ := attentive₂.advance_lapse millis
    obtain ⟨steady₁', trails₁⟩ := (Trails.start shown₁).lapse shows₁ steady₁ attentive₁ lapse₁
    obtain ⟨steady₂', trails₂⟩ := (Trails.start shown₂).lapse shows₂ steady₂ attentive₂ lapse₂
    obtain ⟨now₁, rest₁⟩ := attentive₁.now_advance millis
    obtain ⟨now₂, rest₂⟩ := attentive₂.now_advance millis
    have now : (t₁.advance S₁ millis).now = (t₂.advance S₂ millis).now := by
      rw [now₁, now₂, shown₁.now, shown₂.now]
    exact ⟨attentive₁.lapse lapse₁, attentive₂.lapse lapse₂, steady₁', steady₂',
      trails₁.together trails₂ shows₁ shows₂ (attentive₁.lapse lapse₁) (attentive₂.lapse lapse₂)
        rest₁ rest₂ now⟩
  | both before concerns ih =>
    obtain ⟨attentive₁, attentive₂, steady₁, steady₂, w, shown₁, shown₂⟩ := ih
    exact ⟨attentive₁.act _, attentive₂.act _, steady₁.act attentive₁ concerns,
      steady₂.act attentive₂ concerns, _, shown₁.act concerns, shown₂.act concerns⟩
  | first before spares ih =>
    obtain ⟨attentive₁, attentive₂, steady₁, steady₂, w, shown₁, shown₂⟩ := ih
    exact ⟨attentive₁.act _, attentive₂, steady₁.act_other attentive₁ spares, steady₂, w,
      (side_act_other spares ..).trans shown₁, shown₂⟩
  | second before spares ih =>
    obtain ⟨attentive₁, attentive₂, steady₁, steady₂, w, shown₁, shown₂⟩ := ih
    exact ⟨attentive₁, attentive₂.act _, steady₁, steady₂.act_other attentive₂ spares, w, shown₁,
      (side_act_other spares ..).trans shown₂⟩

/-- Two runs whose sources answer the questions of a schedule alike are at every moment the same for
the schedule, whatever becomes of the questions of the other one. -/
theorem independent (shows₁ : S₁.Shows O part₁ which) (shows₂ : S₂.Shows O part₂ which)
    (alongside : Alongside S₁ S₂ part₁ part₂ which t₁ t₂) :
    SameFor which t₁ t₂ ∧
      ∀ millis, SameFor which (t₁.advance S₁ millis) (t₂.advance S₂ millis) := by
  obtain ⟨w, shown₁, shown₂⟩ := (kept shows₁ shows₂ alongside).shown
  refine ⟨shown₁.sameFor shown₂, fun millis => ?_⟩
  obtain ⟨w', shown₁', shown₂'⟩ := (kept shows₁ shows₂ (alongside.advance millis)).shown
  exact shown₁'.sameFor shown₂'

end Alongside

end Timeline

/-! ### Scripts -/

namespace Script

/-- The part of a script that answers the questions of a schedule. -/
def part (which : Poller.Which) (s : Script) : Script :=
  match which with
  | .list => { metrics := s.metrics, metricsDelay := s.metricsDelay }
  | .names => { names := s.names, namesDelay := s.namesDelay }

/-- A script answers the questions of a schedule as its part does. -/
lemma source_shows (which : Poller.Which) : source.Shows source (part which) which := by
  cases which with
  | list =>
    refine ⟨fun s session now names => ?_, fun s session now node namesNamespace => ?_,
      fun s session now => rfl⟩
    · cases lines : s.metrics with
      | nil => simp [source, nextMetrics, Asked.Shows, part, lines, pop?]
      | cons line rest => cases rest <;> simp [source, nextMetrics, Asked.Shows, part, lines, pop?]
    · cases lines : (s.names.get? node).bind pop? with
      | none => simp [source, nextNames, part, lines]
      | some popped => simp [source, nextNames, part, lines]
  | names =>
    refine ⟨fun s session now names => ?_, fun s session now node namesNamespace => ?_,
      fun s session now => ⟨rfl, rfl⟩⟩
    · cases lines : pop? s.metrics with
      | none => simp [source, nextMetrics, part, lines]
      | some popped => simp [source, nextMetrics, part, lines]
    · cases lines : (s.names.get? node).bind pop? with
      | none => simp [source, nextNames, Asked.Shows, part, lines]
      | some popped => simp [source, nextNames, Asked.Shows, part, lines]

end Script

namespace Timeline

/-- A poller of which the names are answered at once and one of which they are held back for ever
poll for metrics alike. -/
theorem independent_of_hung_names :
    let store : Store := .fresh ⟨some "token"⟩ (.ofList ["n1"]) "org" 64
    let begin (script : Script) : Timeline Script :=
      (Timeline.start store script).withPoller { listEvery := 10, namesEvery := 10 } false
    let prompt := ((begin { metricsDelay := 3 }).act .startPoller).advance Script.source 25
    let hung := (((begin { metricsDelay := 3, namesDelay := 7 }).act .startPoller).act
      (.setGate .names false)).advance Script.source 25
    prompt.stats.ticks .list = 3 ∧ prompt.stats.ticks .names = 3 ∧ hung.stats.ticks .names = 1 ∧
      SameFor .list prompt hung := by
  intro store begin prompt hung
  refine ⟨?_, ?_, ?_, ?_⟩
  · unfold prompt begin store
    decide +kernel
  · unfold prompt begin store
    decide +kernel
  · unfold hung begin store
    decide +kernel
  · have fresh (script : Script) : (Timeline.start store script).IsFresh := ⟨_, _, _, _, script, rfl⟩
    have begun : Alongside Script.source Script.source (Script.part .list) (Script.part .list) .list
        (begin { metricsDelay := 3 }) (begin { metricsDelay := 3, namesDelay := 7 }) :=
      .start (fresh { metricsDelay := 3 }) (fresh { metricsDelay := 3, namesDelay := 7 }) rfl rfl _
        false
    have started := begun.both (a := .startPoller) trivial
    have alongside := started.second (a := .setGate .names false) nofun
    have later := (alongside.independent (Script.source_shows .list) (Script.source_shows .list)).2 25
    exact later

end Timeline

end MetricWatch
