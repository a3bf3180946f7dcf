import MetricWatch.Proofs.Polling.DriftInduction

/-!
# The ledger of ticks

Every tick is entered in a ledger, with what the refresh of the nodes brought, if there was one, and
with how the tick was over: its call was declined, its round brought something, or its loop was
cancelled before. Entries are made from what the source and the store say, and not from what a
schedule remembers. The statistics are exactly what the ledger says, however often the poller is
started and stopped. What carries this is that the open entries are those of the schedules that are
out on an errand, one for each. The main statement is `Drift.counted`.
-/

namespace MetricWatch

open Timeline (kindOf)

/-! ### Ticks -/

/-- Whether a round brought an error. -/
def CallResult.isError : CallResult → Bool
  | .listed (some (.error _)) | .named (some (.error _)) => true
  | _ => false

/-- Whether a round brought names that are missing for some node. -/
def CallResult.hasErrors : CallResult → Bool
  | .named (some (.ok listing)) => !listing.known.errors.isEmpty
  | _ => false

namespace Poller

/-- How a tick was over. -/
inductive TickEnd
  /-- Its call for a round was declined. -/
  | declined
  /-- Its round brought something. -/
  | brought (result : CallResult)
  /-- Its loop was cancelled before. -/
  | cutOff

/-- A tick of a schedule: what the refresh of the nodes brought, once there was one, and how the tick
was over, once it was. -/
structure Tick where
  loop : Nat
  which : Which
  refresh : Option (Except Api.Error (List String))
  ending : Option TickEnd

namespace Tick

/-- Whether the refresh of the nodes failed. -/
def refreshFailed (k : Tick) : Bool := k.refresh.any isFailed

/-- Whether a list tick counts as a failure: its round brought an error. -/
def listFailed (k : Tick) : Bool :=
  match k.ending with
  | some (.brought result) => result.isError
  | some .declined | some .cutOff | none => false

/-- Whether a names tick counts as a failure: it ran to its end, and the nodes could not be
refreshed, its round brought an error, or names are missing for some node. -/
def namesFailed (k : Tick) : Bool :=
  match k.ending with
  | some .declined => k.refreshFailed
  | some (.brought result) => k.refreshFailed || result.isError || result.hasErrors
  | some .cutOff | none => false

/-- Whether a tick counts as a failure. -/
def isFailure (k : Tick) : Bool :=
  match k.which with
  | .list => k.listFailed
  | .names => k.namesFailed

/-- Whether a tick of a schedule of the loop of a number is not over. -/
def isOpenOf (id : Nat) (which : Which) (k : Tick) : Bool :=
  k.loop = id && k.which = which && k.ending.isNone

/-- A tick whose schedule calls for its round at a store: it is over if the call is declined. -/
def calling (store : Store) (k : Tick) : Tick :=
  if (store.items? (kindOf k.which)).isNone then { k with ending := some .declined } else k

/-- A tick whose refresh has brought something: its schedule calls for its round. -/
def answered (store : Store) (nodes : Except Api.Error (List String)) (k : Tick) : Tick :=
  { k with refresh := some nodes }.calling (store.refreshed nodes)

/-- What is left open of a tick. -/
def pending (k : Tick) : List Tick := if k.ending.isNone then [k] else []

variable {k : Tick} {id : Nat} {which : Which}

@[simp] lemma loop_calling (store : Store) (k : Tick) : (k.calling store).loop = k.loop := by
  unfold calling
  split <;> rfl

@[simp] lemma which_calling (store : Store) (k : Tick) : (k.calling store).which = k.which := by
  unfold calling
  split <;> rfl

@[simp] lemma refresh_calling (store : Store) (k : Tick) :
    (k.calling store).refresh = k.refresh := by
  unfold calling
  split <;> rfl

lemma of_isOpenOf (h : k.isOpenOf id which = true) :
    k.loop = id ∧ k.which = which ∧ k.ending = none := by
  simpa [isOpenOf, and_assoc] using h

lemma isOpenOf_own (loop : k.loop = id) (own : k.which = which) :
    k.isOpenOf id which = k.ending.isNone := by
  simp [isOpenOf, loop, own]

/-- A tick is none of another schedule. -/
lemma isOpenOf_other (loop : k.loop = id) (own : k.which = which) {other : Nat} {which' : Which}
    (distinct : ¬ (other = id ∧ which' = which)) : k.isOpenOf other which' = false := by
  by_contra isOpen
  obtain ⟨loop', own', -⟩ := of_isOpenOf (by simpa using isOpen)
  exact distinct ⟨loop'.symm.trans loop, own'.symm.trans own⟩

/-- A tick that is not over does not count as a failure. -/
lemma isFailure_of_open (h : k.ending = none) : k.isFailure = false := by
  unfold isFailure listFailed namesFailed
  rw [h]
  split <;> rfl

end Tick

namespace Stats

/-- Whether no counter has gone back. -/
structure Grown (s s' : Stats) : Prop where
  ticks : ∀ which, s.ticks which ≤ s'.ticks which
  failures : ∀ which, s.failures which ≤ s'.failures which

namespace Grown

variable {s s' s'' : Stats}

lemma of_eq (same : s' = s) : s.Grown s' :=
  ⟨fun _ => Nat.le_of_eq (by rw [same]), fun _ => Nat.le_of_eq (by rw [same])⟩

lemma trans (first : s.Grown s') (last : s'.Grown s'') : s.Grown s'' :=
  ⟨fun which => (first.ticks which).trans (last.ticks which),
    fun which => (first.failures which).trans (last.failures which)⟩

lemma fail (s : Stats) (failed : Bool) (which : Which) :
    s.Grown (if failed then s.fail which else s) := by
  cases failed with
  | true => exact ⟨fun other => by simp, fun other => by simp⟩
  | false => exact of_eq rfl

lemma tick (s : Stats) (which : Which) : s.Grown (s.tick which) :=
  ⟨fun other => by simp, fun other => by simp⟩

end Grown

end Stats

end Poller

namespace Timeline

open Poller (Tick TickEnd)

variable {σ : Type} {S : Source σ} {t t' t'' : Timeline σ} {l : Poller.Loop} {which : Poller.Which}
  {id : Nat} {s : Poller.Schedule} {k k' : Tick} {ks later earlier : List Tick}

/-! ### Entries -/

/-- The entry of a tick that a schedule makes now. A schedule that refreshes the nodes calls for its
round when they are there. -/
def newTick (S : Source σ) (t : Timeline σ) (id : Nat) : Poller.Which → Tick
  | .list => (⟨id, .list, none, none⟩ : Tick).calling t.store
  | .names =>
    let entry : Tick := ⟨id, .names, none, none⟩
    let answer := (S.nodes t.source t.store.session t.now).answer
    if t.refreshes then
      if answer.delay = 0 then entry.answered t.store answer.reply else entry
    else entry.calling t.store

/-- What a look at something else than a tick makes of the entry of the last tick. -/
inductive Continues (t : Timeline σ) (l : Poller.Loop) : Poller.Which → Tick → Tick →
    Timeline σ → Prop
  /-- The nodes are there. -/
  | nodes {until_ : Nat} {nodes : Except Api.Error (List String)} {k : Tick}
      (refreshing : l.names.stage = .refreshing until_ nodes) (arrived : until_ ≤ t.now) :
      Continues t l .names k (k.answered t.store nodes) (t.takeNodes l.id l.names nodes)
  /-- The round has ended. -/
  | round {which : Poller.Which} {round : Nat} {failed bad : Bool} {notes : List Note}
      {result : CallResult} {k : Tick} (inRound : (l.schedule which).stage = .inRound round failed)
      (ended : t.result? (kindOf which) round = some result)
      (judged : t.judge which round = some (bad, notes)) :
      Continues t l which k { k with ending := some (.brought result) }
        ((t.noteAll notes).takeRound l.id which (l.schedule which) round (failed || bad))
  /-- The loop was cancelled, and the schedule stops. -/
  | cutOff {which : Poller.Which} {k : Tick} (cancelled : l.cancelled = true)
      (out : (l.schedule which).stage.errand? ≠ none) :
      Continues t l which k { k with ending := some .cutOff }
        (t.setSchedule l.id which { l.schedule which with stage := .stopped })

/-- The ledger of the ticks since the beginning of a poller, latest first. -/
inductive Ledger (S : Source σ) : List Tick → Timeline σ → Prop
  | new {t : Timeline σ} (fresh : t.IsFresh) (timing : Poller.Timing) (refreshes : Bool) :
      Ledger S [] (t.withPoller timing refreshes)
  /-- A schedule ticks. -/
  | ticks {ks : List Tick} {t : Timeline σ} {l : Poller.Loop} {which : Poller.Which} {armed : Bool}
      (before : Ledger S ks t) (sound : Sound S t) (isThere : l ∈ t.loops)
      (live : l.cancelled = false) (resting : (l.schedule which).stage = .resting armed)
      (due : (l.schedule which).due ≤ t.now) :
      Ledger S (t.newTick S l.id which :: ks) (t.tick S l.id which (l.schedule which))
  /-- A schedule looks at what it waits for after a tick. -/
  | looks {later earlier : List Tick} {t t' : Timeline σ} {l : Poller.Loop} {which : Poller.Which}
      {k k' : Tick} (before : Ledger S (later ++ k :: earlier) t) (sound : Sound S t)
      (isThere : l ∈ t.loops) (isOpen : k.isOpenOf l.id which = true)
      (continues : Continues t l which k k' t') : Ledger S (later ++ k' :: earlier) t'
  /-- Anything else happens. -/
  | between {ks : List Tick} {t t' : Timeline σ} (before : Ledger S ks t) (reaches : Reaches S t t')
      (stats : t'.stats = t.stats) (errand : ∀ id which, t'.errand id which = t.errand id which) :
      Ledger S ks t'

/-! ### The invariant -/

/-- How an errand stands to the open entries of its schedule. -/
inductive Out : Option Poller.Stage → List Tick → Prop
  | none : Out none []
  | refreshing {until_ : Nat} {nodes : Except Api.Error (List String)} (k : Tick) :
      Out (some (.refreshing until_ nodes)) [k]
  | inRound {round : Nat} (k : Tick) : Out (some (.inRound round k.refreshFailed)) [k]

/-- A schedule has at most one open entry. -/
lemma Out.alone {errand : Option Poller.Stage} {front back : List Tick}
    (out : Out errand (front ++ k :: back)) : front = [] ∧ back = [] := by
  generalize entries : front ++ k :: back = all at out
  cases out with
  | none => simp at entries
  | refreshing | inRound =>
    rcases List.append_eq_singleton_iff.mp entries with ⟨noFront, rest⟩ | ⟨-, rest⟩
    · exact ⟨noFront, (List.cons.inj rest).2⟩
    · cases rest

/-- In its round a schedule remembers whether the refresh of its tick failed. -/
lemma Out.remembers {entries : List Tick} {round : Nat} {failed : Bool}
    (out : Out (some (.inRound round failed)) entries) (mem : k ∈ entries) :
    failed = k.refreshFailed := by
  cases out with
  | inRound k' => rw [List.mem_singleton.mp mem]

/-- Whether the statistics are what a ledger says, and the open entries are those of errands. -/
structure Tallied (ks : List Tick) (t : Timeline σ) : Prop where
  ticks : ∀ which, t.stats.ticks which = ks.countP fun k => k.which = which
  failures : ∀ which, t.stats.failures which = ks.countP fun k => k.which = which && k.isFailure
  out : ∀ id which, Out (t.errand id which) (ks.filter (Tick.isOpenOf id which))
  lists : ∀ k ∈ ks, k.which = .list → k.refresh = none

/-- Whether a timeline comes out of another when a schedule has gone on with a tick: the failure is
counted if the tick was one, and the schedule has an errand if the tick is not over. -/
structure Concludes (t : Timeline σ) (id : Nat) (which : Poller.Which) (k : Tick)
    (t' : Timeline σ) : Prop where
  stats : t'.stats = if k.isFailure then t.stats.fail which else t.stats
  stage : ∃ s : Poller.Schedule, t'.loops = (t.taskState.setSchedule id which s).loops ∧
    Out s.stage.errand? k.pending

/-- A schedule that calls for its round goes on with its tick. -/
lemma Called.concludes {failed : Bool} (called : t.Called id which s failed t') (own : k.which = which)
    (isOpen : k.ending = none) (refresh : k.refreshFailed = failed)
    (lists : k.which = .list → k.refresh = none) :
    Concludes t id which (k.calling t.store) t' := by
  subst own refresh
  cases called with
  | declined refused stats loops =>
    have entry : k.calling t.store = { k with ending := some .declined } := by
      simp [Tick.calling, refused]
    rw [entry]
    refine ⟨?_, _, loops, .none⟩
    rw [stats]
    cases isWhich : k.which with
    | list =>
      have plain : k.refreshFailed = false := by simp [Tick.refreshFailed, lists isWhich]
      simp [Tick.isFailure, Tick.listFailed, plain]
    | names => rfl
  | admitted welcome stats round loops =>
    have entry : k.calling t.store = k := by simp [Tick.calling, welcome]
    rw [entry]
    refine ⟨?_, _, loops, ?_⟩
    · rw [stats, Tick.isFailure_of_open isOpen]
      rfl
    · have rest : k.pending = [k] := by simp [Tick.pending, isOpen]
      rw [rest]
      exact .inRound k

lemma concludes_takeNodes (t : Timeline σ) (s : Poller.Schedule)
    (nodes : Except Api.Error (List String)) (own : k.which = .names) (isOpen : k.ending = none) :
    Concludes t id .names (k.answered t.store nodes) (t.takeNodes id s nodes) := by
  have called := called_takeNodes t id s nodes
  have concludes := called.concludes (k := { k with refresh := some nodes }) own isOpen rfl
    (fun list => by rw [own] at list; cases list)
  exact ⟨concludes.stats, concludes.stage⟩

lemma Concludes.congr (h : Concludes t id which k t'') (stats : t.stats = t'.stats)
    (loops : t.loops = t'.loops) : Concludes t' id which k t'' := by
  obtain ⟨statsAfter, s, loopsAfter, out⟩ := h
  refine ⟨stats ▸ statsAfter, s, loopsAfter.trans ?_, out⟩
  simp only [TaskState.setSchedule, taskState, loops]

/-- A tick is counted, and its schedule goes on with it. -/
lemma concludes_tick (S : Source σ) (t : Timeline σ) (id : Nat) (which : Poller.Which)
    (s : Poller.Schedule) :
    Concludes (t.counted which) id which (t.newTick S id which) (t.tick S id which s) := by
  cases which with
  | list => exact (called_beginRound (t.counted .list) ..).concludes rfl rfl rfl fun _ => rfl
  | names =>
    let asked := (t.counted .names).askedNodes S
    have store : asked.store = t.store := by simp [asked, askedNodes, noteAll_eq, counted]
    have loops : asked.loops = (t.counted .names).loops := by simp [asked, askedNodes, noteAll_eq]
    have stats : asked.stats = (t.counted .names).stats := stats_noteAll _ _
    have question : S.nodes (t.counted .names).source (t.counted .names).store.session
        (t.counted .names).now = S.nodes t.source t.store.session t.now := rfl
    have refreshes : (t.counted .names).refreshes = t.refreshes := rfl
    rw [tick_names, newTick]
    dsimp only
    rw [question, refreshes]
    cases t.refreshes with
    | true =>
      generalize (S.nodes t.source t.store.session t.now).answer = answer
      by_cases atOnce : answer.delay = 0
      · rw [if_pos rfl, if_pos rfl, if_pos atOnce, if_pos atOnce, ← store]
        exact (concludes_takeNodes asked _ _ rfl rfl).congr stats loops
      · rw [if_pos rfl, if_pos rfl, if_neg atOnce, if_neg atOnce]
        refine Concludes.congr ⟨?_, _, rfl, .refreshing _⟩ stats loops
        rfl
    | false => exact (called_beginRound (t.counted .names) ..).concludes rfl rfl rfl nofun

/-- A round that is judged bad makes its tick a failure, and so does a failed refresh. -/
lemma isFailure_of_judged {round : Nat} {result : CallResult} {bad : Bool} {notes : List Note}
    (own : k.which = which) (lists : k.which = .list → k.refresh = none)
    (ended : t.result? (kindOf which) round = some result)
    (judged : t.judge which round = some (bad, notes)) :
    ({ k with ending := some (.brought result) } : Tick).isFailure = (k.refreshFailed || bad) := by
  cases which with
  | list =>
    have plain : k.refreshFailed = false := by simp [Tick.refreshFailed, lists own]
    cases outcome : t.listOutcome? round with
    | none => simp [judge, outcome] at judged
    | some r =>
      have isResult : result = .listed (some r) := by
        have outcome : t.store.listSlot.outcome? round = some r := outcome
        simpa [result?, Store.result?, kindOf, outcome] using ended.symm
      subst isResult
      cases r <;> simp_all [judge, Tick.isFailure, Tick.listFailed, CallResult.isError]
  | names =>
    cases outcome : t.namesOutcome? round with
    | none => simp [judge, outcome] at judged
    | some r =>
      have isResult : result = .named (some r) := by
        have outcome : t.store.namesSlot.outcome? round = some r := outcome
        simpa [result?, Store.result?, kindOf, outcome] using ended.symm
      subst isResult
      cases r <;>
        simp_all [judge, Tick.isFailure, Tick.namesFailed, CallResult.isError,
          CallResult.hasErrors, Tick.refreshFailed]

/-- A look goes on with its tick. -/
lemma Continues.concludes (continues : Continues t l which k k' t') (tallied : Tallied ks t)
    (sound : Sound S t) (isThere : l ∈ t.loops) (mem : k ∈ ks) (isOpen : k.isOpenOf l.id which = true) :
    k'.loop = k.loop ∧ k'.which = k.which ∧ (k'.which = .list → k'.refresh = none) ∧
      Concludes t l.id which k' t' := by
  obtain ⟨loop, own, ending⟩ := Tick.of_isOpenOf isOpen
  have lists := tallied.lists k mem
  cases continues with
  | nodes refreshing =>
    refine ⟨by simp [Tick.answered], by simp [Tick.answered], fun list => ?_,
      concludes_takeNodes t _ _ own ending⟩
    simp [Tick.answered, own] at list
  | @round _ round failed bad notes result _ inRound ended judged =>
    refine ⟨rfl, rfl, lists, ?_, { l.schedule which with stage := .resting false }, ?_, .none⟩
    · have out := tallied.out l.id which
      rw [errand_of_mem sound.fit isThere, inRound] at out
      obtain rfl := out.remembers (List.mem_filter.mpr ⟨mem, isOpen⟩)
      rw [stats_takeRound, stats_noteAll, isFailure_of_judged own lists ended judged]
    · rw [loops_takeRound, taskState_noteAll]
  | cutOff =>
    refine ⟨rfl, rfl, lists, ?_, _, rfl, .none⟩
    cases isWhich : k.which with
    | list | names =>
      simp only [Tick.isFailure, Tick.listFailed, Tick.namesFailed]
      rfl

namespace Tallied

/-- When a schedule goes on with its tick, the ledger with the new entry is right. -/
lemma replace (h : Tallied (later ++ k :: earlier) t) (sound : Sound S t) (isThere : l ∈ t.loops)
    (isOpen : k.isOpenOf l.id which = true) (loop : k'.loop = k.loop) (own : k'.which = k.which)
    (lists : k'.which = .list → k'.refresh = none) (concludes : Concludes t l.id which k' t') :
    Tallied (later ++ k' :: earlier) t' := by
  obtain ⟨stats, s, loops, out⟩ := concludes
  obtain ⟨isLoop, isWhich, ending⟩ := Tick.of_isOpenOf isOpen
  refine ⟨fun other => ?_, fun other => ?_, fun id other => ?_, fun k'' mem => ?_⟩
  · have ticks := h.ticks other
    rw [stats]
    split <;> simpa [List.countP_append, List.countP_cons, own] using ticks
  · have failures := h.failures other
    rw [List.countP_append, List.countP_cons, Tick.isFailure_of_open ending] at failures
    rw [stats, List.countP_append, List.countP_cons, own, isWhich]
    cases k'.isFailure with
    | true =>
      by_cases same : which = other
      · simp [same] at failures ⊢
        omega
      · simp [same] at failures ⊢
        omega
    | false => simpa using failures
  · rw [errand_setSchedule sound.fit isThere loops]
    have before := h.out id other
    rw [List.filter_append, List.filter_cons] at before ⊢
    by_cases same : id = l.id ∧ other = which
    · obtain ⟨rfl, rfl⟩ := same
      rw [if_pos isOpen, errand_of_mem sound.fit isThere] at before
      obtain ⟨noLater, noEarlier⟩ := before.alone
      rw [noLater, noEarlier, if_pos ⟨rfl, rfl⟩,
        Tick.isOpenOf_own (loop.trans isLoop) (own.trans isWhich)]
      exact out
    · rw [Tick.isOpenOf_other isLoop isWhich same] at before
      rw [if_neg same, Tick.isOpenOf_other (loop.trans isLoop) (own.trans isWhich) same]
      exact before
  · rcases List.mem_append.mp mem with inLater | mem
    · exact h.lists k'' (List.mem_append_left _ inLater)
    · rcases List.mem_cons.mp mem with rfl | inEarlier
      · exact lists
      · exact h.lists k'' (List.mem_append_right _ (List.mem_cons_of_mem _ inEarlier))

lemma newTick_eq (S : Source σ) (t : Timeline σ) (id : Nat) (which : Poller.Which) :
    (t.newTick S id which).loop = id ∧ (t.newTick S id which).which = which ∧
      (which = .list → (t.newTick S id which).refresh = none) := by
  cases which with
  | list => simp [newTick]
  | names =>
    unfold newTick
    dsimp only
    split
    · split <;> simp [Tick.answered]
    · simp

/-- When a schedule ticks, the ledger with another entry is right. -/
lemma tick (h : Tallied ks t) (sound : Sound S t) (isThere : l ∈ t.loops) {armed : Bool}
    (resting : (l.schedule which).stage = .resting armed) :
    Tallied (t.newTick S l.id which :: ks) (t.tick S l.id which (l.schedule which)) := by
  obtain ⟨stats, s, loops, out⟩ := concludes_tick S t l.id which (l.schedule which)
  obtain ⟨loop, own, lists⟩ := newTick_eq S t l.id which
  generalize t.newTick S l.id which = k, t.tick S l.id which (l.schedule which) = t' at *
  have counted : (t.counted which).stats = t.stats.tick which := rfl
  rw [counted] at stats
  refine ⟨fun other => ?_, fun other => ?_, fun id other => ?_, fun k' mem => ?_⟩
  · have ticks := h.ticks other
    rw [stats]
    split <;> simp [List.countP_cons, own, ticks]
  · have failures := h.failures other
    rw [stats, List.countP_cons, own]
    cases k.isFailure <;> simp [failures]
  · rw [errand_setSchedule (t := t) sound.fit isThere loops, List.filter_cons]
    have before := h.out id other
    by_cases same : id = l.id ∧ other = which
    · obtain ⟨rfl, rfl⟩ := same
      have rested : t.errand l.id other = none := by
        rw [errand_of_mem sound.fit isThere, resting]
        rfl
      rw [rested] at before
      have none : ks.filter (Tick.isOpenOf l.id other) = [] := by
        generalize ks.filter (Tick.isOpenOf l.id other) = entries at before
        cases before
        rfl
      rw [none, if_pos ⟨rfl, rfl⟩, Tick.isOpenOf_own loop own]
      exact out
    · rw [if_neg same, Tick.isOpenOf_other loop own same]
      exact before
  · rcases List.mem_cons.mp mem with rfl | old
    · exact fun list => lists (own ▸ list)
    · exact h.lists k' old

end Tallied

/-- Every ledger is right. -/
theorem Ledger.tallied (ledger : Ledger S ks t) : Tallied ks t := by
  induction ledger with
  | new fresh =>
    obtain ⟨session, directory, namesNamespace, capacity, source, rfl⟩ := fresh
    exact ⟨fun which => by cases which <;> rfl, fun which => by cases which <;> rfl,
      fun _ _ => .none, List.forall_mem_nil _⟩
  | ticks _ sound isThere _ resting _ ih => exact ih.tick sound isThere resting
  | looks _ sound isThere isOpen continues ih =>
    obtain ⟨loop, own, lists, concludes⟩ :=
      continues.concludes ih sound isThere (List.mem_append_right _ List.mem_cons_self) isOpen
    exact ih.replace sound isThere isOpen loop own lists concludes
  | between _ _ stats errand ih =>
    refine ⟨?_, ?_, fun id which => ?_, ih.lists⟩
    · rw [stats]
      exact ih.ticks
    · rw [stats]
      exact ih.failures
    · rw [errand]
      exact ih.out id which

/-! ### Every drift has a ledger -/

/-- An errand has an open entry. -/
lemma Ledger.entry (ledger : Ledger S ks t) {id : Nat} (out : t.errand id which ≠ none) :
    ∃ later k earlier, ks = later ++ k :: earlier ∧ k.isOpenOf id which = true := by
  have entries := ledger.tallied.out id which
  obtain ⟨k, mem⟩ : ∃ k, k ∈ ks.filter (Tick.isOpenOf id which) := by
    generalize t.errand id which = errand, ks.filter (Tick.isOpenOf id which) = entries
      at entries out
    cases entries with
    | none => exact absurd rfl out
    | refreshing k | inRound k => exact ⟨k, List.mem_singleton_self k⟩
  obtain ⟨mem, isOpen⟩ := List.mem_filter.mp mem
  obtain ⟨later, earlier, split⟩ := List.append_of_mem mem
  exact ⟨later, k, earlier, split, isOpen⟩

/-- Whatever a schedule looks at after a tick, the ledger goes on. -/
lemma Ledger.continues (ledger : Ledger S ks t) (sound : Sound S t) (isThere : l ∈ t.loops)
    (out : (l.schedule which).stage.errand? ≠ none)
    (continues : ∀ k, ∃ k', Continues t l which k k' t') : ∃ ks', Ledger S ks' t' := by
  rw [← errand_of_mem sound.fit isThere] at out
  obtain ⟨later, k, earlier, rfl, isOpen⟩ := ledger.entry out
  obtain ⟨k', continues⟩ := continues k
  exact ⟨_, ledger.looks sound isThere isOpen continues⟩

/-- A schedule without an errand that gets none leaves the ledger alone. -/
lemma Ledger.rests (ledger : Ledger S ks t) (sound : Sound S t) (isThere : l ∈ t.loops)
    (reaches : Reaches S t t') (stats : t'.stats = t.stats)
    (loops : t'.loops = (t.taskState.setSchedule l.id which s).loops)
    (idle : s.stage.errand? = none)
    (before : (l.schedule which).stage.errand? = none) : Ledger S ks t' := by
  refine ledger.between reaches stats fun id other => ?_
  rw [errand_setSchedule sound.fit isThere loops]
  split
  next own =>
    obtain ⟨rfl, rfl⟩ := own
    rw [errand_of_mem sound.fit isThere, idle, before]
  next => rfl

lemma judge_some {round : Nat} {bad : Bool} {notes : List Note}
    (judged : t.judge which round = some (bad, notes)) :
    ∃ result, t.result? (kindOf which) round = some result := by
  refine Option.ne_none_iff_exists'.mp fun pending => ?_
  rw [judge_eq_none.mpr pending] at judged
  cases judged

/-- Every look of a schedule is entered. -/
lemma Ledger.look (ledger : Ledger S ks t) (sound : Sound S t) (isThere : l ∈ t.loops)
    (look : Look S t l which t') : ∃ ks', Ledger S ks' t' := by
  have plain := sound.fit.plain l isThere
  have nodes {until_ : Nat} {nodes : Except Api.Error (List String)}
      (refreshing : (l.schedule which).stage = .refreshing until_ nodes) (arrived : until_ ≤ t.now) :
      ∃ ks', Ledger S ks' (t.takeNodes l.id (l.schedule which) nodes) := by
    cases which with
    | list => exact absurd refreshing (plain _ _)
    | names =>
      exact ledger.continues sound isThere (by rw [refreshing]; exact nofun)
        fun k => ⟨_, .nodes refreshing arrived⟩
  have round {round : Nat} {failed bad : Bool} {notes : List Note}
      (inRound : (l.schedule which).stage = .inRound round failed)
      (judged : t.judge which round = some (bad, notes)) :
      ∃ ks', Ledger S ks'
        ((t.noteAll notes).takeRound l.id which (l.schedule which) round (failed || bad)) := by
    obtain ⟨result, ended⟩ := judge_some judged
    exact ledger.continues sound isThere (by rw [inRound]; exact nofun)
      fun k => ⟨_, .round inRound ended judged⟩
  cases look with
  | turn turn =>
    cases turn with
    | stops cancelled running =>
      by_cases out : (l.schedule which).stage.errand? = none
      · exact ⟨ks, ledger.rests sound isThere (.aside rfl) rfl rfl rfl out⟩
      · exact ledger.continues sound isThere out fun k => ⟨_, .cutOff cancelled out⟩
    | ticks live resting due => exact ⟨_, ledger.ticks sound isThere live resting due⟩
    | arms live resting =>
      exact ⟨ks, ledger.rests sound isThere (.aside rfl) rfl rfl rfl (by rw [resting]; rfl)⟩
    | takesNodes _ refreshing arrived => exact nodes refreshing arrived
    | takesRound _ inRound judged => exact round inRound judged
  | late late =>
    cases late with
    | nodes _ refreshing arrived => exact nodes refreshing arrived
    | round _ inRound judged => exact round inRound judged

/-- Every drift has a ledger. -/
theorem Ledger.drift (ledger : Ledger S ks t) (attentive : Attentive S t) (drift : Drift S t t') :
    ∃ ks', Ledger S ks' t' := by
  refine drift.induction (P := fun u => ∃ ks', Ledger S ks' u) attentive ?_ ⟨ks, ledger⟩
  rintro u v sound piece ⟨ks, ledger⟩
  cases piece with
  | look isThere look => exact ledger.look sound isThere look
  | fetch isThere turn reaches =>
    have taskState := (turn.taskState fun _ => sound.ofKind isThere).same
    exact ⟨ks, ledger.between reaches turn.stats (errand_congr taskState.2)⟩
  | wait =>
    exact ⟨ks, ledger.between (moveTo_reaches S u _) (u.stats_moveTo _)
      (errand_congr (u.loops_moveTo _))⟩
  | aside aside => exact ⟨ks, ledger.between aside.reaches aside.stats aside.errand⟩

/-! ### What the ledger says -/

lemma grown_takeNodes (t : Timeline σ) (id : Nat) (s : Poller.Schedule)
    (nodes : Except Api.Error (List String)) :
    t.stats.Grown (t.takeNodes id s nodes).stats := by
  cases called_takeNodes t id s nodes with
  | declined _ stats => exact stats ▸ .fail t.stats _ .names
  | admitted _ stats => exact .of_eq stats

lemma grown_takeRound (t : Timeline σ) (id : Nat) (which : Poller.Which) (s : Poller.Schedule)
    (round : Nat) (failed : Bool) (notes : List Note) :
    t.stats.Grown ((t.noteAll notes).takeRound id which s round failed).stats := by
  rw [stats_takeRound, stats_noteAll]
  exact .fail t.stats failed which

/-- No counter goes back in any piece of a drift. -/
lemma Piece.grown (piece : Piece S t t') : t.stats.Grown t'.stats := by
  cases piece with
  | @look _ l which _ look =>
    cases look with
    | turn turn =>
      cases turn with
      | stops | arms => exact .of_eq rfl
      | ticks =>
        refine (Poller.Stats.Grown.tick t.stats which).trans ?_
        rw [(concludes_tick S t l.id which (l.schedule which)).stats]
        exact .fail _ _ which
      | takesNodes => exact grown_takeNodes ..
      | takesRound => exact grown_takeRound ..
    | late late =>
      cases late with
      | nodes => exact grown_takeNodes ..
      | round => exact grown_takeRound ..
  | fetch _ turn => exact .of_eq turn.stats
  | wait => exact .of_eq (t.stats_moveTo _)
  | aside aside => exact .of_eq aside.stats

lemma Drift.grown (drift : Drift S t t') (attentive : Attentive S t) :
    t.stats.Grown t'.stats :=
  drift.induction (P := fun u => t.stats.Grown u.stats) attentive
    (fun _ _ _ piece before => before.trans piece.grown) (.of_eq rfl)

/-- What a ledger says about statistics. -/
structure Counted (ks : List Tick) (stats : Poller.Stats) : Prop where
  listTicks : stats.listTicks = ks.countP fun k => k.which = .list
  namesTicks : stats.namesTicks = ks.countP fun k => k.which = .names
  /-- A list tick fails if its round brought an error. -/
  listFailures : stats.listFailures = ks.countP fun k => k.which = .list && k.listFailed
  /-- A names tick fails if it ran to its end and anything in it failed, however much did. -/
  namesFailures : stats.namesFailures = ks.countP fun k => k.which = .names && k.namesFailed
  list_le : stats.listFailures ≤ stats.listTicks
  names_le : stats.namesFailures ≤ stats.namesTicks

lemma Tallied.isCounted (h : Tallied ks t) : Counted ks t.stats := by
  have le (which : Poller.Which) : t.stats.failures which ≤ t.stats.ticks which := by
    rw [h.ticks, h.failures]
    exact List.countP_mono_left fun k _ failure => (Bool.and_eq_true_iff.mp failure).1
  have failures (which : Poller.Which) (failed : Tick → Bool)
      (same : ∀ k : Tick, k.which = which → k.isFailure = failed k) :
      t.stats.failures which = ks.countP fun k => k.which = which && failed k := by
    rw [h.failures]
    refine List.countP_congr fun k _ => ?_
    by_cases own : k.which = which
    · rw [same k own]
    · simp [own]
  exact ⟨h.ticks .list, h.ticks .names,
    failures .list Tick.listFailed fun k own => by simp [Tick.isFailure, own],
    failures .names Tick.namesFailed fun k own => by simp [Tick.isFailure, own],
    le .list, le .names⟩

/-- However often a poller is started and stopped, and whatever its ticks meet, its statistics are
what the ledger of its ticks says, and no counter ever goes back. -/
theorem Drift.counted (fresh : t.IsFresh) {timing : Poller.Timing} {refreshes : Bool}
    (drift : Drift S (t.withPoller timing refreshes) t') :
    (∃ ks, Ledger S ks t') ∧ (∀ ks, Ledger S ks t' → Counted ks t'.stats) ∧
      ∀ t'', Drift S t' t'' → t'.stats.Grown t''.stats := by
  have attentive : Attentive S (t.withPoller timing refreshes) := .fresh fresh timing refreshes
  exact ⟨(Ledger.new fresh timing refreshes).drift attentive drift,
    fun ks ledger => ledger.tallied.isCounted,
    fun t'' later => later.grown (drift.attentive attentive)⟩

/-- A poller whose list rounds fail and whose nodes are not known, for twenty-five milliseconds. -/
theorem counted_failing :
    let idle : Timeline Script := (Timeline.start (.fresh ⟨some "token"⟩ .unknown "org" 64)
      { metrics := [.failed ⟨.network, "connection refused"⟩] }).withPoller { listEvery := 10 } false
    let after := idle.startPoller.2.advance Script.source 25
    after.stats = ⟨3, 3, 1, 0⟩ ∧ ∃ ks, Ledger Script.source ks after ∧ Counted ks after.stats := by
  intro idle after
  have stats : after.stats = ⟨3, 3, 1, 0⟩ := by
    unfold after idle
    rfl
  have fresh : (Timeline.start (.fresh ⟨some "token"⟩ .unknown "org" 64)
      { metrics := [.failed ⟨.network, "connection refused"⟩] } : Timeline Script).IsFresh :=
    ⟨_, _, _, _, _, rfl⟩
  have attentive : Attentive Script.source idle := .fresh fresh { listEvery := 10 } false
  have started : Course Script.source idle idle.startPoller.2 := Course.refl.act .startPoller
  have advanced := started.lapse ((attentive.starts (starts_startPoller _)).advance_lapse 25)
  obtain ⟨⟨ks, ledger⟩, counted, -⟩ := Drift.counted fresh advanced.drift
  exact ⟨stats, ks, ledger, counted ks ledger⟩

end Timeline

end MetricWatch
