import MetricWatch.Proofs.Polling.Sound

/-!
# The schedules are separate

Each of the two schedules has a side of the timeline: all that its ticks, refreshes and rounds
depend on, and all that they bring about. What belongs to the other schedule leaves a side alone,
and what is its own depends on nothing but the side.
-/

namespace MetricWatch

/-! ### Sides of a store -/

/-- Whether an event tells of a round of a schedule. -/
def Event.isOf : Event → Poller.Which → Bool
  | .metricsUpdated _, .list => true
  | .namesUpdated _, .names => true
  | _, _ => false

namespace Store

/-- What the rounds of a schedule depend on and change, with everything else of the store taken
out. Subscribers are taken out too: they only listen. -/
def side (s : Store) : Poller.Which → Store
  | .list =>
    { s with
      directory := .unknown
      namesNamespace := ""
      listing := none
      namesSlot := .fresh
      channel := ⟨0, s.channel.sent.filter fun e => e.isOf .list, []⟩ }
  | .names =>
    { s with
      registrations := .empty
      latest := none
      listSlot := .fresh
      channel := ⟨0, s.channel.sent.filter fun e => e.isOf .names, []⟩ }

variable {s s' : Store} {which : Poller.Which}

open Timeline (kindOf conclude breakdown?)

lemma items?_side (s : Store) (which : Poller.Which) :
    (s.side which).items? (kindOf which) = s.items? (kindOf which) := by cases which <;> rfl

lemma occupant_side (s : Store) (which : Poller.Which) :
    (s.side which).occupant (kindOf which) = s.occupant (kindOf which) := by cases which <;> rfl

lemma nextRound_side (s : Store) (which : Poller.Which) :
    (s.side which).nextRound (kindOf which) = s.nextRound (kindOf which) := by cases which <;> rfl

lemma result?_side (s : Store) (which : Poller.Which) (round : Nat) :
    (s.side which).result? (kindOf which) round = s.result? (kindOf which) round := by
  cases which <;> rfl

lemma side_occupy (s : Store) (which : Poller.Which) :
    (s.occupy (kindOf which)).side which = (s.side which).occupy (kindOf which) := by
  cases which <;> rfl

lemma side_occupy_other {kind : RoundKind} (other : kind ≠ kindOf which) (s : Store) :
    (s.occupy kind).side which = s.side which := by
  cases which <;> cases kind <;> first | rfl | exact absurd rfl other

/-- What a round brings to its side depends on the side. -/
lemma side_conclude (s : Store) (round now : Nat) {g : Gathered} (own : g.kind = kindOf which) :
    (conclude s round now g).side which = (conclude (s.side which) round now g).side which := by
  cases which with
  | list =>
    cases g with
    | list reply => cases reply <;> simp [conclude, endList, side, Channel.send, List.filter_cons]
    | names => cases own
  | names =>
    cases g with
    | list => cases own
    | names replies =>
      cases broke : breakdown? replies with
      | none => simp [conclude, broke, endNames, side, Channel.send, knownNames, List.filter_cons]
      | some text => simp [conclude, broke, breakNames, side]

lemma side_conclude_other (s : Store) (round now : Nat) {g : Gathered}
    (other : g.kind ≠ kindOf which) : (conclude s round now g).side which = s.side which := by
  cases which with
  | list =>
    cases g with
    | list => exact absurd rfl other
    | names replies =>
      cases broke : breakdown? replies with
      | none => simp [conclude, broke, endNames, side, Channel.send, Event.isOf]
      | some text => simp [conclude, broke, breakNames, side]
  | names =>
    cases g with
    | list reply => cases reply <;> simp [conclude, endList, side, Channel.send, Event.isOf]
    | names => exact absurd rfl other

end Store

/-- What one of the schedules of a loop depends on. -/
structure Poller.Lane where
  id : Nat
  cancelled : Bool
  schedule : Poller.Schedule

/-- The lane of one of the schedules of a loop. -/
def Poller.Loop.lane (which : Poller.Which) (l : Poller.Loop) : Poller.Lane :=
  ⟨l.id, l.cancelled, l.schedule which⟩

namespace Poller.Stats

/-- How often a schedule ticked. -/
def ticks (s : Stats) : Which → Nat
  | .list => s.listTicks
  | .names => s.namesTicks

/-- How often a schedule failed. -/
def failures (s : Stats) : Which → Nat
  | .list => s.listFailures
  | .names => s.namesFailures

end Poller.Stats

/-- The side of one of the schedules: all that it depends on, and all that it brings about. Of the
source it is the part that answers its questions. -/
structure Side (π : Type) where
  now : Nat
  store : Store
  source : π
  isOpen : Bool
  fetches : List Fetch
  poller : Option Poller
  loopCount : Nat
  lanes : List Poller.Lane
  ticks : Nat
  failures : Nat

namespace Side

open Timeline (kindOf conclude)

variable {π : Type}

/-- A fetch at another stage. -/
def setStage (v : Side π) (kind : RoundKind) (round : Nat) (stage : FetchStage) : Side π :=
  { v with
    fetches := v.fetches.map fun f =>
      if f.kind = kind ∧ f.round = round then { f with stage := stage } else f }

/-- A schedule at another stage. -/
def setSchedule (v : Side π) (id : Nat) (s : Poller.Schedule) : Side π :=
  { v with lanes := v.lanes.map fun l => if l.id = id then { l with schedule := s } else l }

/-- A round that starts. -/
def begin (v : Side π) (kind : RoundKind) (items : List String) : Side π :=
  { v with
    store := v.store.occupy kind
    fetches := v.fetches ++ [⟨kind, v.store.nextRound kind, .begun items⟩] }

/-- A round that ends. -/
def finish (v : Side π) (which : Poller.Which) (round : Nat) (g : Gathered) : Side π :=
  { v with
    store := (conclude v.store round v.now g).side which
    fetches := v.fetches.filter fun f => ¬ (f.kind = kindOf which ∧ f.round = round) }

end Side

namespace Timeline

variable {σ π : Type} {S : Source σ} {O : Source π} {part : σ → π} {which : Poller.Which}
  {t t' : Timeline σ} {u : Timeline π}

/-- The side of a schedule. -/
def side (t : Timeline σ) (part : σ → π) (which : Poller.Which) : Side π where
  now := t.now
  store := t.store.side which
  source := part t.source
  isOpen := t.isOpen (kindOf which)
  fetches := t.fetches.filter fun f => f.kind = kindOf which
  poller := t.poller
  loopCount := t.loopCount
  lanes := t.loops.map (Poller.Loop.lane which)
  ticks := t.stats.ticks which
  failures := t.stats.failures which

/-! ### What leaves both sides alone -/

section

variable (t : Timeline σ) (part : σ → π) (which : Poller.Which)

@[simp] lemma side_wake (task : TaskId) : (t.wake task).side part which = t.side part which := by
  rw [wake_eq]
  rfl

@[simp] lemma side_arm (due : Nat) (task : TaskId) :
    (t.arm due task).side part which = t.side part which := rfl

@[simp] lemma side_note (n : Note) : (t.note n).side part which = t.side part which := rfl

@[simp] lemma side_noteAll (notes : List Note) :
    (t.noteAll notes).side part which = t.side part which := by
  rw [noteAll_eq]
  rfl

@[simp] lemma side_see (kind : RoundKind) (round : Nat) :
    (t.see kind round).2.side part which = t.side part which := by
  unfold see
  split <;> rfl

@[simp] lemma side_setCaller (id : Nat) (stage : CallerStage) :
    (t.setCaller id stage).side part which = t.side part which := rfl

lemma side_turned (id : Nat) : (t.turned id).side part which = t.side part which := by
  have lanes : (t.turned id).loops.map (Poller.Loop.lane which)
      = t.loops.map (Poller.Loop.lane which) := by
    simp only [turned, changeLoop, List.map_map]
    refine List.map_congr_left fun l _ => ?_
    simp only [Function.comp_apply]
    split
    · cases which <;> rfl
    · rfl
  simp only [side, lanes]
  rfl

end

/-- The timeline after a schedule counted a tick. -/
def counted (t : Timeline σ) (which : Poller.Which) : Timeline σ :=
  { t with stats := t.stats.tick which }

/-- The timeline after a schedule asked for the nodes. -/
def askedNodes (S : Source σ) (t : Timeline σ) : Timeline σ :=
  { t with source := (S.nodes t.source t.store.session t.now).state }.noteAll
    (S.nodes t.source t.store.session t.now).notes

lemma tick_list (S : Source σ) (t : Timeline σ) (id : Nat) (s : Poller.Schedule) :
    t.tick S id .list s = (t.counted .list).beginRound id .list
      { s with due := Poller.nextDue s.period s.due t.now } false := rfl

lemma tick_names (S : Source σ) (t : Timeline σ) (id : Nat) (s : Poller.Schedule) :
    t.tick S id .names s
      = (let ticked := { s with due := Poller.nextDue s.period s.due t.now }
        let t := t.counted .names
        let answer := (S.nodes t.source t.store.session t.now).answer
        if t.refreshes then
          if answer.delay = 0 then (t.askedNodes S).takeNodes id ticked answer.reply
          else
            let until_ := (t.askedNodes S).now + answer.delay
            ((t.askedNodes S).setSchedule id .names
              { ticked with stage := .refreshing until_ answer.reply }).arm until_ (.loop id)
        else t.beginRound id .names ticked false) := rfl

/-! ### What changes one side -/

lemma side_setStage (t : Timeline σ) (part : σ → π) (which : Poller.Which) (kind : RoundKind)
    (round : Nat) (stage : FetchStage) : (t.setStage kind round stage).side part which
      = (t.side part which).setStage kind round stage := by
  have fetches : (t.setStage kind round stage).fetches.filter (fun f => f.kind = kindOf which)
      = (t.fetches.filter fun f => f.kind = kindOf which).map fun f =>
        if f.kind = kind ∧ f.round = round then { f with stage := stage } else f := by
    simp only [setStage, List.filter_map]
    congr 1
    refine List.filter_congr fun f _ => ?_
    simp only [Function.comp_apply]
    split <;> rfl
  simp only [side, Side.setStage, fetches]
  rfl

lemma side_setStage_other {kind : RoundKind} (other : kind ≠ kindOf which) (t : Timeline σ)
    (part : σ → π) (round : Nat) (stage : FetchStage) :
    (t.setStage kind round stage).side part which = t.side part which := by
  rw [side_setStage]
  have fetches : ((t.side part which).setStage kind round stage).fetches
      = (t.side part which).fetches := by
    refine (List.map_congr_left fun f mem => ?_).trans (List.map_id _)
    have own : f.kind = kindOf which := by simpa using (List.mem_filter.mp mem).2
    exact if_neg fun same => other (same.1.symm.trans own)
  exact congrArg (fun fetches => { t.side part which with fetches := fetches }) fetches

lemma side_setSchedule (t : Timeline σ) (part : σ → π) (which : Poller.Which) (id : Nat)
    (s : Poller.Schedule) : (t.setSchedule id which s).side part which
      = (t.side part which).setSchedule id s := by
  have lanes : (t.setSchedule id which s).loops.map (Poller.Loop.lane which)
      = (t.loops.map (Poller.Loop.lane which)).map fun l =>
        if l.id = id then { l with schedule := s } else l := by
    simp only [setSchedule, changeLoop, List.map_map]
    refine List.map_congr_left fun l _ => ?_
    by_cases own : l.id = id <;> cases which <;>
      simp [own, Poller.Loop.lane, Poller.Loop.withSchedule, Poller.Loop.schedule]
  simp only [side, Side.setSchedule, lanes]
  rfl

lemma side_setSchedule_other {other : Poller.Which} (distinct : other ≠ which) (t : Timeline σ)
    (part : σ → π) (id : Nat) (s : Poller.Schedule) :
    (t.setSchedule id other s).side part which = t.side part which := by
  have lanes : (t.setSchedule id other s).loops.map (Poller.Loop.lane which)
      = t.loops.map (Poller.Loop.lane which) := by
    simp only [setSchedule, changeLoop, List.map_map]
    refine List.map_congr_left fun l _ => ?_
    cases which <;> cases other <;> first
      | exact absurd rfl distinct
      | (simp only [Function.comp_apply]; split <;> rfl)
  simp only [side, lanes]
  rfl

lemma side_fail (t : Timeline σ) (part : σ → π) (which : Poller.Which) :
    (t.fail which).side part which
      = { t.side part which with failures := (t.side part which).failures + 1 } := by
  cases which <;> rfl

lemma side_counted (t : Timeline σ) (part : σ → π) (which : Poller.Which) :
    (t.counted which).side part which
      = { t.side part which with ticks := (t.side part which).ticks + 1 } := by
  cases which <;> rfl

lemma side_counted_other {other : Poller.Which} (distinct : other ≠ which) (t : Timeline σ)
    (part : σ → π) : (t.counted other).side part which = t.side part which := by
  cases which <;> cases other <;> first | rfl | exact absurd rfl distinct

lemma side_fail_other {other : Poller.Which} (distinct : other ≠ which) (t : Timeline σ)
    (part : σ → π) : (t.fail other).side part which = t.side part which := by
  cases which <;> cases other <;> first | rfl | exact absurd rfl distinct

lemma side_endRound (t : Timeline σ) (part : σ → π) (round : Nat) {g : Gathered}
    (own : g.kind = kindOf which) : (t.endRound (kindOf which) round g).side part which
      = (t.side part which).finish which round g := by
  have store := t.store.side_conclude round t.now own
  have fetches : (t.fetches.filter fun f => ¬ (f.kind = kindOf which ∧ f.round = round)).filter
        (fun f => f.kind = kindOf which)
      = (t.fetches.filter fun f => f.kind = kindOf which).filter
        fun f => ¬ (f.kind = kindOf which ∧ f.round = round) := List.filter_comm _ _ _
  simp only [endRound, wakeAll_eq, noteAll_eq]
  simp only [side, Side.finish, store, fetches]
  rfl

lemma side_endRound_other {g : Gathered} (other : g.kind ≠ kindOf which) (t : Timeline σ)
    (part : σ → π) (round : Nat) :
    (t.endRound g.kind round g).side part which = t.side part which := by
  have store := t.store.side_conclude_other round t.now other
  have fetches : (t.fetches.filter fun f => ¬ (f.kind = g.kind ∧ f.round = round)).filter
        (fun f => f.kind = kindOf which)
      = t.fetches.filter fun f => f.kind = kindOf which := by
    rw [List.filter_filter]
    refine List.filter_congr fun f _ => ?_
    by_cases own : f.kind = kindOf which
    · simp [own, other.symm]
    · simp [own]
  simp only [endRound, wakeAll_eq, noteAll_eq]
  simp only [side, store, fetches]
  rfl

/-! ### Calls -/

lemma side_start (t : Timeline σ) (part : σ → π) (which : Poller.Which) (items : List String) :
    ({ t with
        store := t.store.occupy (kindOf which)
        fetches := t.fetches ++ [⟨kindOf which, t.store.nextRound (kindOf which), .begun items⟩]
      } : Timeline σ).side part which = (t.side part which).begin (kindOf which) items := by
  have store := t.store.side_occupy which
  simp only [side, Side.begin, store, List.filter_append]
  rw [← t.store.nextRound_side which]
  cases which <;> rfl

lemma call_of_refused {kind : RoundKind} (refused : t.store.items? kind = none) :
    (t.call kind).1 = none ∧
      ∀ (part : σ → π) which, (t.call kind).2.side part which = t.side part which := by
  cases t.store.calls kind with
  | declined _ call => cases kind <;> simp [Timeline.call, call]
  | joined admitted | started admitted =>
    rw [refused] at admitted
    cases admitted

lemma call_of_occupied {kind : RoundKind} {items : List String} {round : Nat}
    (admitted : t.store.items? kind = some items) (occupied : t.store.occupant kind = some round) :
    t.call kind = (some round, t) := by
  cases t.store.calls kind with
  | declined refused =>
    rw [admitted] at refused
    cases refused
  | joined _ occupied' call =>
    obtain rfl := Option.some.inj (occupied.symm.trans occupied')
    simp only [Timeline.call, call]
  | started _ vacant =>
    rw [occupied] at vacant
    cases vacant

lemma call_of_vacant {kind : RoundKind} {items : List String}
    (admitted : t.store.items? kind = some items) (vacant : t.store.occupant kind = none) :
    (t.call kind).1 = some (t.store.nextRound kind) ∧
      ∀ (part : σ → π) which, (t.call kind).2.side part which = ({ t with
        store := t.store.occupy kind
        fetches := t.fetches ++ [⟨kind, t.store.nextRound kind, .begun items⟩]
      } : Timeline σ).side part which := by
  cases t.store.calls kind with
  | declined refused =>
    rw [admitted] at refused
    cases refused
  | joined _ occupied =>
    rw [vacant] at occupied
    cases occupied
  | started admitted' _ call =>
    obtain rfl := Option.some.inj (admitted.symm.trans admitted')
    simp only [Timeline.call, call, side_wake, true_and, implies_true]

lemma side_call_other {kind : RoundKind} (other : kind ≠ kindOf which) (t : Timeline σ)
    (part : σ → π) : (t.call kind).2.side part which = t.side part which := by
  cases admitted : t.store.items? kind with
  | none => exact (call_of_refused admitted).2 part which
  | some items =>
    cases occupied : t.store.occupant kind with
    | some round => rw [call_of_occupied admitted occupied]
    | none =>
      rw [(call_of_vacant admitted occupied).2 part which]
      have store := Store.side_occupy_other other t.store
      have none : [(⟨kind, t.store.nextRound kind, .begun items⟩ : Fetch)].filter
          (fun f => f.kind = kindOf which) = [] := by simp [other]
      simp only [side, store, List.filter_append, none, List.append_nil]
      cases which <;> rfl

/-! ### Timelines that show a side -/

/-- Whether a timeline has the same side of a schedule as another, whose source is the part that
answers its questions. -/
def Shows (part : σ → π) (which : Poller.Which) (t : Timeline σ) (u : Timeline π) : Prop :=
  t.side part which = u.side id which

namespace Shows

lemma now (h : Shows part which t u) : t.now = u.now := congrArg Side.now h

lemma store (h : Shows part which t u) : t.store.side which = u.store.side which :=
  congrArg Side.store h

lemma source (h : Shows part which t u) : part t.source = u.source := congrArg Side.source h

lemma isOpen (h : Shows part which t u) : t.isOpen (kindOf which) = u.isOpen (kindOf which) :=
  congrArg Side.isOpen h

lemma fetches (h : Shows part which t u) : (t.fetches.filter fun f => f.kind = kindOf which)
    = u.fetches.filter fun f => f.kind = kindOf which := congrArg Side.fetches h

lemma poller (h : Shows part which t u) : t.poller = u.poller := congrArg Side.poller h

lemma lanes (h : Shows part which t u) :
    t.loops.map (Poller.Loop.lane which) = u.loops.map (Poller.Loop.lane which) :=
  congrArg Side.lanes h

lemma items? (h : Shows part which t u) :
    t.store.items? (kindOf which) = u.store.items? (kindOf which) := by
  rw [← t.store.items?_side, h.store, u.store.items?_side]

lemma occupant (h : Shows part which t u) :
    t.store.occupant (kindOf which) = u.store.occupant (kindOf which) := by
  rw [← t.store.occupant_side, h.store, u.store.occupant_side]

lemma nextRound (h : Shows part which t u) :
    t.store.nextRound (kindOf which) = u.store.nextRound (kindOf which) := by
  rw [← t.store.nextRound_side, h.store, u.store.nextRound_side]

lemma result? (h : Shows part which t u) (round : Nat) :
    t.result? (kindOf which) round = u.result? (kindOf which) round := by
  rw [Timeline.result?, ← t.store.result?_side, h.store, u.store.result?_side]
  rfl

/-- What a call meets, and what it does, is the same on the same side. -/
lemma call (h : Shows part which t u) :
    (t.call (kindOf which)).1 = (u.call (kindOf which)).1 ∧
      Shows part which (t.call (kindOf which)).2 (u.call (kindOf which)).2 := by
  cases admitted : t.store.items? (kindOf which) with
  | none =>
    obtain ⟨none, same⟩ := call_of_refused admitted
    obtain ⟨none', same'⟩ := call_of_refused (h.items? ▸ admitted)
    refine ⟨none.trans none'.symm, ?_⟩
    unfold Shows
    rw [same, same']
    exact h
  | some items =>
    cases occupied : t.store.occupant (kindOf which) with
    | some round =>
      rw [call_of_occupied admitted occupied,
        call_of_occupied (h.items? ▸ admitted) (h.occupant ▸ occupied)]
      exact ⟨rfl, h⟩
    | none =>
      obtain ⟨next, same⟩ := call_of_vacant admitted occupied
      obtain ⟨next', same'⟩ := call_of_vacant (h.items? ▸ admitted) (h.occupant ▸ occupied)
      refine ⟨by rw [next, next', h.nextRound], ?_⟩
      unfold Shows
      rw [same, same', side_start, side_start, h]

end Shows

/-! ### Sources -/

end Timeline

/-- Whether a source answers a question as another one does that only has a part of its state. -/
def Asked.Shows {σ π α : Type} (part : σ → π) (asked : Asked σ α) (asked' : Asked π α) : Prop :=
  asked.answer = asked'.answer ∧ part asked.state = asked'.state

/-- Whether a source answers the questions of a schedule as another one does that only has a part of
its state, and leaves that part alone when it answers the questions of the other schedule. -/
structure Source.Shows {σ π : Type} (S : Source σ) (O : Source π) (part : σ → π)
    (which : Poller.Which) : Prop where
  metrics : ∀ s session now names, match which with
    | .list => (S.metrics s session now names).Shows part (O.metrics (part s) session now names)
    | .names => part (S.metrics s session now names).state = part s
  names : ∀ s session now node namesNamespace, match which with
    | .list => part (S.names s session now node namesNamespace).state = part s
    | .names => (S.names s session now node namesNamespace).Shows part
        (O.names (part s) session now node namesNamespace)
  nodes : ∀ s session now, match which with
    | .list => part (S.nodes s session now).state = part s
    | .names => (S.nodes s session now).Shows part (O.nodes (part s) session now)

namespace Timeline

variable {σ π : Type} {S : Source σ} {O : Source π} {part : σ → π} {which : Poller.Which}
  {t t' : Timeline σ} {u : Timeline π}

/-! ### Asking -/

/-- A question changes the state of the source. -/
lemma side_asking (t : Timeline σ) (part : σ → π) (which : Poller.Which) (source : σ)
    (questions : List (Nat × Question)) (notes : List Note) :
    (({ t with
        source := source
        questions := questions } : Timeline σ).noteAll notes).side part which
      = { t.side part which with source := part source } := by
  rw [side_noteAll]
  cases which <;> rfl

lemma side_askedNodes (S : Source σ) (t : Timeline σ) (part : σ → π) (which : Poller.Which) :
    (t.askedNodes S).side part which = { t.side part which with
      source := part (S.nodes t.source t.store.session t.now).state } := by
  unfold askedNodes
  rw [side_noteAll]
  cases which <;> rfl

lemma side_afterNode (S : Source σ) (t : Timeline σ) (part : σ → π) (which : Poller.Which)
    (node : String) : (t.afterNode S node).side part which = { t.side part which with
      source := part
        (S.names t.source t.store.session t.now node t.store.namesNamespace).state } :=
  side_asking ..

lemma side_asked_other {kind : RoundKind} (other : kind ≠ kindOf which)
    (shows : S.Shows O part which) (t : Timeline σ) (items : List String) :
    (asked S t kind items).side part which = t.side part which := by
  cases which with
  | list =>
    cases kind with
    | list => exact absurd rfl other
    | names =>
      unfold asked ask
      dsimp only
      induction items generalizing t with
      | nil => rfl
      | cons node rest ih =>
        have after : (t.afterNode S node).side part .list = t.side part .list := by
          rw [side_afterNode, shows.names t.source t.store.session t.now node t.store.namesNamespace]
          rfl
        have more := (ih (t.afterNode S node)).trans after
        rw [askNames_cons]
        dsimp only
        split
        · split
          · exact after
          · exact more
        · exact more
  | names =>
    cases kind with
    | names => exact absurd rfl other
    | list =>
      unfold asked ask askMetrics
      dsimp only
      rw [side_asking, shows.metrics t.source t.store.session t.now items]
      rfl

namespace Shows

lemma session (h : Shows part which t u) : t.store.session = u.store.session := by
  have store := congrArg Store.session h.store
  cases which <;> exact store

lemma askNames (shows : S.Shows O part .names) (h : Shows part .names t u) (items : List String) :
    (askNames S items t).1 = (Timeline.askNames O items u).1 ∧
      Shows part .names (askNames S items t).2 (Timeline.askNames O items u).2 := by
  induction items generalizing t u with
  | nil => exact ⟨rfl, h⟩
  | cons node rest ih =>
    have same := congrArg Store.namesNamespace h.store
    have namesNamespace : t.store.namesNamespace = u.store.namesNamespace := same
    obtain ⟨answer, state⟩ :=
      shows.names t.source t.store.session t.now node t.store.namesNamespace
    have answer : t.nodeAnswer S node = u.nodeAnswer O node := by
      unfold nodeAnswer
      rw [answer, h.source, h.session, h.now, namesNamespace]
    have after : Shows part .names (t.afterNode S node) (u.afterNode O node) := by
      unfold Shows
      rw [side_afterNode, side_afterNode, state, h.source, h.session, h.now, namesNamespace, h]
      rfl
    obtain ⟨replies, more⟩ := ih after
    have isOpen : (t.afterNode S node).namesOpen = (u.afterNode O node).namesOpen := after.isOpen
    rw [askNames_cons, askNames_cons]
    dsimp only
    rw [answer, isOpen]
    split
    · split
      · exact ⟨rfl, after⟩
      · exact ⟨congrArg _ replies, more⟩
    · exact ⟨congrArg _ replies, more⟩

/-- What a round asks and hears is the same on the same side. -/
lemma ask (shows : S.Shows O part which) (h : Shows part which t u) (items : List String) :
    (ask S t (kindOf which) items).1 = (Timeline.ask O u (kindOf which) items).1 ∧
      (ask S t (kindOf which) items).2.1 = (Timeline.ask O u (kindOf which) items).2.1 ∧
      (ask S t (kindOf which) items).2.2.1 = (Timeline.ask O u (kindOf which) items).2.2.1 ∧
      Shows part which (asked S t (kindOf which) items) (asked O u (kindOf which) items) := by
  cases which with
  | list =>
    obtain ⟨answer, state⟩ := shows.metrics t.source t.store.session t.now items
    have same : (S.metrics t.source t.store.session t.now items).answer
        = (O.metrics u.source u.store.session u.now items).answer := by
      rw [answer, h.source, h.session, h.now]
    refine ⟨congrArg (fun a : Answer _ => Gathered.list a.reply) same, congrArg Answer.delay same, rfl, ?_⟩
    unfold Shows asked Timeline.ask askMetrics
    dsimp only [kindOf]
    rw [side_asking, side_asking, state, h.source, h.session, h.now, h]
    rfl
  | names =>
    obtain ⟨replies, after⟩ := askNames shows h items
    unfold Timeline.ask asked
    dsimp only [kindOf]
    rw [replies]
    exact ⟨rfl, rfl, rfl, after⟩

/-! ### Fetches -/

lemma awaitAnswers (h : Shows part which t u) {g : Gathered} (own : g.kind = kindOf which)
    (round delay : Nat) : Shows part which (t.awaitAnswers (kindOf which) round g delay)
      (u.awaitAnswers (kindOf which) round g delay) := by
  unfold Timeline.awaitAnswers Shows
  split
  · rw [side_endRound _ _ _ own, side_endRound _ _ _ own, h]
  · rw [side_arm, side_arm, side_setStage, side_setStage, h.now, h]

/-- How a fetch goes on is the same on the same side. -/
lemma stepFetch (shows : S.Shows O part which) (h : Shows part which t u)
    (ofKind : ∀ f ∈ t.fetches, ∀ g, f.stage.gathered? = some g → g.kind = f.kind) (round : Nat) :
    Shows part which (t.stepFetch S (kindOf which) round) (u.stepFetch O (kindOf which) round) := by
  have ownOnly (fetches : List Fetch) :
      (fetches.filter fun f => f.kind = kindOf which).find?
          (fun f => f.kind = kindOf which ∧ f.round = round)
        = fetches.find? fun f => f.kind = kindOf which ∧ f.round = round := by
    rw [List.find?_filter]
    congr 1
    funext f
    by_cases own : f.kind = kindOf which <;> simp [own]
  have same : t.fetches.find? (fun f => f.kind = kindOf which ∧ f.round = round)
      = u.fetches.find? fun f => f.kind = kindOf which ∧ f.round = round := by
    rw [← ownOnly, h.fetches, ownOnly]
  unfold Timeline.stepFetch
  rw [← same]
  cases found : t.fetches.find? (fun f => f.kind = kindOf which ∧ f.round = round) with
  | none => exact h
  | some f =>
    have isThere := List.mem_of_find?_eq_some found
    have own : f.kind = kindOf which := by
      have own := List.find?_some found
      simp only [decide_eq_true_eq] at own
      exact own.1
    dsimp only
    cases stage : f.stage with
    | begun items =>
      obtain ⟨gathered, delay, holdable, after⟩ := h.ask shows items
      have afterOpen := after.isOpen
      unfold asked at after afterOpen
      dsimp only
      rw [← gathered, ← delay, ← holdable, ← afterOpen]
      split
      · unfold Shows
        rw [side_setStage, side_setStage, after]
      · exact after.awaitAnswers (kind_ask S t (kindOf which) items) ..
    | held g delay =>
      dsimp only
      rw [← h.isOpen]
      split
      · exact h.awaitAnswers ((ofKind f isThere g (by rw [stage]; rfl)).trans own) ..
      · exact h
    | waiting g until_ =>
      dsimp only
      rw [← h.now]
      split
      · have ofKind := (ofKind f isThere g (by rw [stage]; rfl)).trans own
        unfold Shows
        rw [side_endRound _ _ _ ofKind, side_endRound _ _ _ ofKind, h]
      · exact h

end Shows

lemma side_awaitAnswers_other {g : Gathered} (other : g.kind ≠ kindOf which) (t : Timeline σ)
    (part : σ → π) (round delay : Nat) :
    (t.awaitAnswers g.kind round g delay).side part which = t.side part which := by
  unfold awaitAnswers
  split
  · exact side_endRound_other other ..
  · rw [side_arm, side_setStage_other other]

/-- The fetches of one schedule leave the side of the other alone. -/
lemma FetchTurn.side_other {f : Fetch} (turn : FetchTurn S t f t')
    (ofKind : ∀ g, f.stage.gathered? = some g → g.kind = f.kind)
    (other : f.kind ≠ kindOf which) (shows : S.Shows O part which) :
    t'.side part which = t.side part which := by
  cases turn with
  | stays => rfl
  | holds => rw [side_setStage_other other, side_asked_other other shows]
  | @hears items =>
    have own : (ask S t f.kind items).1.kind = f.kind := kind_ask S t f.kind items
    have await := side_awaitAnswers_other (own ▸ other) (asked S t f.kind items) part f.round
      (ask S t f.kind items).2.1
    rw [own] at await
    rw [await, side_asked_other other shows]
  | @freed g delay held =>
    have own : g.kind = f.kind := ofKind g (by rw [held]; rfl)
    rw [← own]
    exact side_awaitAnswers_other (own ▸ other) ..
  | @ends g _ waiting =>
    have own : g.kind = f.kind := ofKind g (by rw [waiting]; rfl)
    rw [← own]
    exact side_endRound_other (own ▸ other) ..

/-! ### Callers -/

/-- Callers who call for the rounds of one schedule leave the side of the other alone. -/
lemma side_stepCaller (others : ∀ c ∈ t.callers, c.kind ≠ kindOf which) (part : σ → π) (id : Nat) :
    (t.stepCaller id).side part which = t.side part which := by
  have looks (t : Timeline σ) (kind : RoundKind) (round : Nat) :
      (t.lookAt id kind round).side part which = t.side part which := by
    unfold lookAt
    split
    · rw [side_setCaller, side_see]
    · rfl
  unfold stepCaller
  split
  · rfl
  next c found =>
    have other := others c (List.mem_of_find?_eq_some found)
    have called := side_call_other other t part
    split
    · generalize t.call c.kind = met at called
      obtain ⟨_ | round, after⟩ := met
      · exact called
      · exact (looks ..).trans called
    · exact looks ..
    · rfl
    · rfl

/-! ### Schedules -/

lemma side_updateNodes (t : Timeline σ) (part : σ → π) (nodes : List String) :
    ({ t with store := t.store.updateNodes nodes } : Timeline σ).side part .names
      = { t.side part .names with store := (t.side part .names).store.updateNodes nodes } := rfl

/-- Whether a loop goes on once more does not matter to a side. -/
lemma side_takeRound (t : Timeline σ) (part : σ → π) (which own : Poller.Which) (id : Nat)
    (s : Poller.Schedule) (round : Nat) (failed : Bool) :
    (t.takeRound id own s round failed).side part which
      = ((if failed then t.fail own else t).setSchedule id own
        { s with stage := .resting false }).side part which := by
  have looked := t.side_see part which (kindOf own) round
  unfold takeRound
  generalize t.see (kindOf own) round = look at looked
  obtain ⟨first, after⟩ := look
  have woken : (if first then after.wake (.loop id) else after).side part which
      = t.side part which := by
    split
    · exact (side_wake ..).trans looked
    · exact looked
  dsimp only at woken ⊢
  generalize (if first then after.wake (.loop id) else after) = t' at woken ⊢
  by_cases same : own = which
  · subst same
    cases failed with
    | false => rw [side_setSchedule, side_setSchedule, if_neg nofun, if_neg nofun, woken]
    | true => rw [side_setSchedule, side_setSchedule, if_pos rfl, if_pos rfl, side_fail, side_fail, woken]
  · rw [side_setSchedule_other same, side_setSchedule_other same]
    cases failed with
    | false => exact woken
    | true => rw [if_pos rfl, if_pos rfl, side_fail_other same, side_fail_other same, woken]

namespace Shows

lemma setSchedule (h : Shows part which t u) (id : Nat) (s : Poller.Schedule) :
    Shows part which (t.setSchedule id which s) (u.setSchedule id which s) := by
  unfold Shows
  rw [side_setSchedule, side_setSchedule, h]

lemma fail (h : Shows part which t u) : Shows part which (t.fail which) (u.fail which) := by
  unfold Shows
  rw [side_fail, side_fail, h]

lemma noteAll (h : Shows part which t u) (notes notes' : List Note) :
    Shows part which (t.noteAll notes) (u.noteAll notes') := by
  unfold Shows
  rw [side_noteAll, side_noteAll, h]

lemma beginRound (h : Shows part which t u) (id : Nat) (s : Poller.Schedule) (failed : Bool) :
    Shows part which (t.beginRound id which s failed) (u.beginRound id which s failed) := by
  obtain ⟨met, after⟩ := h.call
  unfold Timeline.beginRound
  generalize t.call (kindOf which) = called, u.call (kindOf which) = called' at met after
  obtain ⟨round?, t'⟩ := called
  obtain ⟨round?', u'⟩ := called'
  obtain rfl : round? = round?' := met
  cases round? with
  | none =>
    cases failed with
    | false => exact after.setSchedule ..
    | true => exact after.fail.setSchedule ..
  | some round => exact after.setSchedule ..

lemma takeNodes (h : Shows part .names t u) (id : Nat) (s : Poller.Schedule)
    (nodes : Except Api.Error (List String)) :
    Shows part .names (t.takeNodes id s nodes) (u.takeNodes id s nodes) := by
  unfold Timeline.takeNodes
  split
  next nodes =>
    have known : Shows part .names { t with store := t.store.updateNodes nodes }
        { u with store := u.store.updateNodes nodes } := by
      unfold Shows
      rw [side_updateNodes, side_updateNodes, h]
    exact known.beginRound ..
  next => exact beginRound (t := t.note _) (u := u.note _) h ..

lemma refreshes (h : Shows part which t u) : t.refreshes = u.refreshes := by
  unfold Timeline.refreshes
  rw [h.poller]

lemma tick (shows : S.Shows O part which) (h : Shows part which t u) (id : Nat)
    (s : Poller.Schedule) : Shows part which (t.tick S id which s) (u.tick O id which s) := by
  have counted : Shows part which (t.counted which) (u.counted which) := by
    unfold Shows
    rw [side_counted, side_counted, h]
  have now := h.now
  cases which with
  | list =>
    rw [tick_list, tick_list, now]
    exact counted.beginRound ..
  | names =>
    obtain ⟨answer, state⟩ := shows.nodes (t.counted .names).source (t.counted .names).store.session
      (t.counted .names).now
    rw [counted.source, counted.session, counted.now] at answer state
    have asked : Shows part .names ((t.counted .names).askedNodes S)
        ((u.counted .names).askedNodes O) := by
      unfold Shows
      rw [side_askedNodes, side_askedNodes, counted.session, counted.now, state, counted]
      rfl
    have refreshes := counted.refreshes
    have until_ := asked.now
    rw [tick_names, tick_names, now]
    dsimp only
    rw [refreshes, counted.session, counted.now, answer, until_]
    split
    · split
      · exact asked.takeNodes ..
      · exact asked.setSchedule ..
    · exact counted.beginRound ..

/-- What a schedule makes of its round is the same on the same side. -/
lemma judge (h : Shows part which t u) (round : Nat) : t.judge which round = u.judge which round := by
  cases which with
  | list =>
    have slot := congrArg Store.listSlot h.store
    have same : t.listOutcome? round = u.listOutcome? round :=
      congrArg (fun slot : Slot Update => slot.outcome? round) slot
    rw [Timeline.judge, Timeline.judge, same]
  | names =>
    have slot := congrArg Store.namesSlot h.store
    have same : t.namesOutcome? round = u.namesOutcome? round :=
      congrArg (fun slot : Slot Listing => slot.outcome? round) slot
    rw [Timeline.judge, Timeline.judge, same]

lemma takeRound (h : Shows part which t u) (id : Nat) (s : Poller.Schedule) (round : Nat)
    (failed : Bool) :
    Shows part which (t.takeRound id which s round failed) (u.takeRound id which s round failed) := by
  unfold Shows
  rw [side_takeRound, side_takeRound]
  cases failed with
  | false => exact h.setSchedule ..
  | true => exact h.fail.setSchedule ..

lemma loop? (h : Shows part which t u) (loop : Nat) :
    (t.loop? loop).map (Poller.Loop.lane which) = (u.loop? loop).map (Poller.Loop.lane which) := by
  have lanes := congrArg (List.find? fun l => l.id = loop) h.lanes
  rw [List.find?_map, List.find?_map] at lanes
  exact lanes

/-- How a schedule goes on, and whether it does, is the same on the same side. -/
lemma stepSchedule (shows : S.Shows O part which) (h : Shows part which t u)
    (plain : ∀ l ∈ t.loops, ∀ until_ nodes, l.list.stage ≠ .refreshing until_ nodes) (loop : Nat) :
    Option.Rel (Shows part which) (t.stepSchedule S loop which) (u.stepSchedule O loop which) := by
  have lanes := h.loop? loop
  cases found : t.loop? loop with
  | none =>
    rw [found] at lanes
    have found' : u.loop? loop = none := Option.map_eq_none_iff.mp lanes.symm
    rw [Timeline.stepSchedule, found, Timeline.stepSchedule, found']
    exact .none
  | some l =>
    rw [found] at lanes
    obtain ⟨l', found', lane⟩ := Option.map_eq_some_iff.mp lanes.symm
    have cancelled : l'.cancelled = l.cancelled := congrArg Poller.Lane.cancelled lane
    have schedule : l'.schedule which = l.schedule which := congrArg Poller.Lane.schedule lane
    rw [Timeline.stepSchedule, found, Timeline.stepSchedule, found']
    dsimp only
    rw [cancelled, schedule, ← h.now]
    cases stage : (l.schedule which).stage with
    | stopped => exact .none
    | resting armed =>
      dsimp only
      split
      · exact .some (h.setSchedule ..)
      · split
        · exact .some (h.tick shows ..)
        · split
          · exact .none
          · exact .some (h.setSchedule ..)
    | refreshing until_ nodes =>
      dsimp only
      split
      · exact .some (h.setSchedule ..)
      · split
        · cases which with
          | list =>
            have isThere := (TaskState.mem_of_loop? (g := t.taskState) found).1
            exact absurd stage (plain l isThere _ _)
          | names => exact .some (h.takeNodes ..)
        · exact .none
    | inRound round failed =>
      dsimp only
      split
      · exact .some (h.setSchedule ..)
      · rw [← h.judge]
        cases t.judge which round with
        | none => exact .none
        | some verdict => exact .some ((h.noteAll ..).takeRound ..)

end Shows

/-! ### The other schedule -/

section

variable {other : Poller.Which} (distinct : other ≠ which)

include distinct

lemma kindOf_ne : kindOf other ≠ kindOf which := by
  cases which <;> cases other <;> first | decide | exact absurd rfl distinct

lemma side_beginRound_other (t : Timeline σ) (part : σ → π) (id : Nat) (s : Poller.Schedule)
    (failed : Bool) : (t.beginRound id other s failed).side part which = t.side part which := by
  have called := side_call_other (kindOf_ne distinct) t part
  unfold beginRound
  generalize t.call (kindOf other) = met at called
  obtain ⟨_ | round, after⟩ := met
  · cases failed with
    | false => exact (side_setSchedule_other distinct ..).trans called
    | true =>
      exact (side_setSchedule_other distinct ..).trans ((side_fail_other distinct ..).trans called)
  · exact (side_setSchedule_other distinct ..).trans called

lemma side_takeRound_other (t : Timeline σ) (part : σ → π) (id : Nat) (s : Poller.Schedule)
    (round : Nat) (failed : Bool) :
    (t.takeRound id other s round failed).side part which = t.side part which := by
  rw [side_takeRound, side_setSchedule_other distinct]
  cases failed with
  | false => rfl
  | true => exact side_fail_other distinct ..

end

lemma side_takeNodes_other (t : Timeline σ) (part : σ → π) (id : Nat) (s : Poller.Schedule)
    (nodes : Except Api.Error (List String)) :
    (t.takeNodes id s nodes).side part .list = t.side part .list := by
  unfold takeNodes
  split
  next nodes =>
    exact side_beginRound_other (by decide) { t with store := t.store.updateNodes nodes } ..
  next => exact side_beginRound_other (by decide) (t.note _) ..

lemma side_tick_other {other : Poller.Which} (distinct : other ≠ which)
    (shows : S.Shows O part which) (t : Timeline σ) (id : Nat) (s : Poller.Schedule) :
    (t.tick S id other s).side part which = t.side part which := by
  have counted := side_counted_other distinct t part
  cases other with
  | list =>
    rw [tick_list]
    exact (side_beginRound_other distinct ..).trans counted
  | names =>
    cases which with
    | names => exact absurd rfl distinct
    | list =>
      have asked : ((t.counted .names).askedNodes S).side part .list = t.side part .list := by
        rw [side_askedNodes, shows.nodes (t.counted .names).source, counted]
        exact congrArg (fun source => { t.side part .list with source := source }) rfl
      rw [tick_names]
      dsimp only
      split
      · split
        · exact (side_takeNodes_other ..).trans asked
        · rw [side_arm, side_setSchedule_other distinct, asked]
      · exact (side_beginRound_other distinct ..).trans counted

/-- The turns of one schedule leave the side of the other alone. -/
lemma Turn.side_other {other : Poller.Which} {l : Poller.Loop} (turn : Turn S t l other t')
    (distinct : other ≠ which) (shows : S.Shows O part which)
    (plain : ∀ until_ nodes, l.list.stage ≠ .refreshing until_ nodes) :
    t'.side part which = t.side part which := by
  cases turn with
  | stops => exact side_setSchedule_other distinct ..
  | ticks => exact side_tick_other distinct shows ..
  | arms => rw [side_arm, side_setSchedule_other distinct]
  | takesNodes _ refreshing =>
    cases other with
    | list => exact absurd refreshing (plain _ _)
    | names =>
      cases which with
      | names => exact absurd rfl distinct
      | list => exact side_takeNodes_other ..
  | takesRound => rw [side_takeRound_other distinct, side_noteAll]

end Timeline

end MetricWatch
