import MetricWatch.Proofs.Polling.DriftInduction
import MetricWatch.Proofs.Rounds.Abandonment
import MetricWatch.Proofs.Rounds.Listings

/-!
# Outstanding fetches

A fetch is a task of its own. Whatever becomes of those who wait for its round, it asks, waits for
its answers and ends its round, and what it brings and when is settled by the source, by the gate and
by how far it was. The main statements are `Drift.fate` for any number of beats, and
`Attentive.ends` for the end, which comes once the gate is open.
-/

namespace MetricWatch.Timeline

variable {σ : Type} {S : Source σ} {t₀ t t' u : Timeline σ} {f f' : Fetch} {g : Gathered}
  {marks : List Mark} {w : Work}

/-! ### What rounds leave alone -/

/-- All rounds before one that is fetched have ended, and no others. -/
lemma Orderly.ends_of_outstanding (orderly : Orderly marks w) (isThere : f ∈ w.fetches) :
    (ends f.kind marks).map Prod.fst = (List.range f.round).reverse := by
  have numbered := orderly.numbered f.kind
  have there := Work.mem_fetchesOf.mpr isThere
  obtain ⟨items, rest, started, whole⟩ : ∃ items rest,
      starts f.kind marks = (f.round, items) :: rest ∧ Whole rest (ends f.kind marks) := by
    have phase := orderly.phase f.kind
    unfold account at phase
    generalize starts f.kind marks = s, ends f.kind marks = e, w.fetchesOf f.kind = fetches,
      w.store.occupant f.kind = occupant, requests f.kind marks = r, answers f.kind marks = a
      at phase there
    cases phase with
    | idle | stuck => cases there
    | begun whole | asked _ _ whole =>
      rw [List.mem_singleton.mp there]
      exact ⟨_, _, rfl, whole⟩
  rw [started, List.map_cons] at numbered
  rw [whole.rounds]
  cases next : w.store.nextRound f.kind with
  | zero =>
    rw [next] at numbered
    cases numbered
  | succ n =>
    rw [next, List.range_succ, List.reverse_append] at numbered
    obtain ⟨rfl, below⟩ := List.cons.inj numbered
    exact below

/-- While a names round is fetched, what is known of names stays as it is. -/
lemma Sound.listing_of_outstanding (sound : Sound S t) (reaches : Reaches S t t')
    (isThere : f ∈ t.fetches) (isThere' : f' ∈ t'.fetches) (ofNames : f.kind = .names)
    (kind : f'.kind = f.kind) (round : f'.round = f.round) :
    t'.store.listing = t.store.listing := by
  obtain ⟨marks, run⟩ := sound.run
  obtain ⟨later, run'⟩ := run.reaches reaches
  have before := run.orderly.ends_of_outstanding (f := f) isThere
  have after := run'.orderly.ends_of_outstanding (f := f') isThere'
  rw [kind, round, ends_append, List.map_append, before] at after
  have none : ends .names later = [] := by
    rw [← ofNames]
    exact List.map_eq_nil_iff.mp (List.append_left_eq_self.mp after)
  have incomplete : completions later = [] := by
    refine List.filterMap_eq_nil_iff.mpr fun m mem => ?_
    by_contra complete
    obtain ⟨⟨round, replies⟩, complete⟩ := Option.ne_none_iff_exists'.mp complete
    obtain ⟨time, result, rfl, -⟩ := Mark.exists_of_completion? complete
    have ended : (round, .names replies) ∈ ends .names later := mem_ends.mpr ⟨time, result, mem⟩
    rw [none] at ended
    cases ended
  rw [run'.announced.1, run.announced.1, completions, List.filterMap_append]
  rw [show later.filterMap Mark.completion? = [] from incomplete]
  rfl

/-- What those get who wait for a round does not change any more. -/
lemma Sound.result?_kept (sound : Sound S t) (reaches : Reaches S t t') {kind : RoundKind}
    {round : Nat} {result : CallResult} (ended : t.result? kind round = some result) :
    t'.result? kind round = some result := by
  obtain ⟨marks, run⟩ := sound.run
  obtain ⟨later, run'⟩ := run.reaches reaches
  obtain ⟨time, g, mem⟩ := (run.orderly.result?_iff kind round result).mp ended
  exact (run'.orderly.result?_iff kind round result).mpr
    ⟨time, g, List.mem_append_right later mem⟩

/-- What a round brings depends only on its answers, and a names round on the names known before. -/
lemma ending_congr {s s' : Store} (listing : g.kind = .names → s'.listing = s.listing)
    (round now : Nat) : ending s' round now g = ending s round now g := by
  cases g with
  | list reply => cases reply <;> rfl
  | names replies =>
    have known : s'.knownNames = s.knownNames := by
      rw [Store.knownNames, Store.knownNames, listing rfl]
    simp only [ending, known]

/-! ### What others leave alone -/

namespace TaskState

variable {g g' : TaskState} {l : Poller.Loop} {which : Poller.Which}

lemma Enters.fetches_subset {kind : RoundKind} {round : Nat}
    (h : g.Enters kind round g') : g.fetches ⊆ g'.fetches := by
  cases h with
  | joined => exact List.Subset.refl _
  | started => exact List.subset_append_left ..

lemma Begins.fetches_subset {id : Nat} {s : Poller.Schedule}
    (h : g.Begins id which s g') : g.fetches ⊆ g'.fetches := by
  cases h with
  | declined => exact List.Subset.refl _
  | admitted enters => exact enters.fetches_subset

lemma Turn.fetches_subset (h : g.Turn l which g') : g.fetches ⊆ g'.fetches := by
  cases h with
  | stops | refreshes | arms => exact List.Subset.refl _
  | ticks _ _ _ begins | takesNodes _ _ _ begins => exact begins.fetches_subset
  | takesRound _ _ _ again => cases again <;> exact List.Subset.refl _

/-- A fetch that goes on leaves the others alone. -/
lemma FetchTurn.mem_other (turn : g.FetchTurn f' g') (isThere : f ∈ g.fetches)
    (other : ¬ (f.kind = f'.kind ∧ f.round = f'.round)) : f ∈ g'.fetches := by
  cases turn with
  | stays => exact isThere
  | holds | waits => exact List.mem_map.mpr ⟨f, isThere, if_neg other⟩
  | ends => exact List.mem_filter.mpr ⟨isThere, decide_eq_true other⟩

end TaskState

lemma Late.fetches_subset {l : Poller.Loop} {which : Poller.Which} (sound : Sound S t)
    (isThere : l ∈ t.loops) (late : Late t l which t') : t.fetches ⊆ t'.fetches := by
  cases late with
  | nodes _ refreshing =>
    cases which with
    | list => exact absurd refreshing (sound.fit.plain l isThere _ _)
    | names => exact (taskState_takeNodes sound.isAhead l.id (l.schedule .names) _).fetches_subset
  | @round round failed bad notes =>
    have work : ((t.noteAll notes).takeRound l.id which (l.schedule which) round
        (failed || bad)).work = t.work := by rw [work_takeRound, work_noteAll]
    intro f mem
    rw [show t.fetches = _ from congrArg Work.fetches work.symm] at mem
    exact mem

/-- Whatever a loop does, fetches go on and the gates stay as they are. -/
lemma Sound.keeps_stepLoop (sound : Sound S t) (id : Nat) :
    t.fetches ⊆ (t.stepLoop S id).fetches ∧ (t.stepLoop S id).isOpen = t.isOpen := by
  have spins {t t' : Timeline σ} {which : Poller.Which} (sound : Sound S t)
      (spins : Spins S id which t t') : t.fetches ⊆ t'.fetches ∧ t'.isOpen = t.isOpen := by
    induction spins with
    | refl => exact ⟨List.Subset.refl _, rfl⟩
    | tail before stepped ih =>
      have sound := sound.spins before
      obtain ⟨l, found, turn⟩ := turn_of_some stepped
      have isThere := (TaskState.mem_of_loop? (g := Timeline.taskState _) found).1
      have turn := turn.taskState sound.isAhead (sound.fit.plain l isThere)
      obtain ⟨_, goes⟩ := turn.goes
      exact ⟨List.Subset.trans ih.1 turn.fetches_subset, goes.keeps.isOpen.trans ih.2⟩
  obtain ⟨-, same⟩ | ⟨_, _, u, v, -, first, last, stepped, -⟩ := sound.stepLoop_spins id
  · rw [same]
    exact ⟨List.Subset.refl _, rfl⟩
  · rw [stepped]
    obtain ⟨fetches, isOpen⟩ := spins (sound.turned id) first
    obtain ⟨fetches', isOpen'⟩ := spins ((sound.turned id).spins first) last
    exact ⟨List.Subset.trans fetches fetches', isOpen'.trans isOpen⟩

/-- A task that goes on leaves other fetches alone. -/
lemma Sound.mem_step (sound : Sound S t) (isThere : f ∈ t.fetches) {task : TaskId}
    (other : task ≠ .fetch f.kind f.round) : f ∈ (t.step S task).fetches := by
  cases task with
  | fetch kind round =>
    obtain ⟨same, -⟩ | ⟨f', isThere', rfl, rfl, turn⟩ := fetchTurn S t kind round
    · rw [Timeline.step, same]
      exact isThere
    · refine (turn.taskState fun _ => sound.ofKind isThere').mem_other isThere ?_
      rintro ⟨kind, round⟩
      exact other (by rw [kind, round])
  | caller id => exact (Aside.stepCaller sound id).fetches f isThere
  | loop id => exact (sound.keeps_stepLoop id).1 isThere

lemma Sound.isOpen_step (sound : Sound S t) (task : TaskId) :
    (t.step S task).isOpen = t.isOpen := by
  cases task with
  | fetch kind round =>
    obtain ⟨same, -⟩ | ⟨f', isThere', rfl, rfl, turn⟩ := fetchTurn S t kind round
    · rw [Timeline.step, same]
    · have turn := turn.taskState fun _ => sound.ofKind isThere'
      have kept {g : TaskState} (turn : t.taskState.FetchTurn f' g) : g.isOpen = t.isOpen := by
        cases turn <;> rfl
      exact kept turn
  | caller id =>
    obtain ⟨same, -⟩ | ⟨c, -, rfl, turn⟩ := taskState_stepCaller sound.isAhead id
    · rw [Timeline.step, same]
    · have kept {g : TaskState} (turn : t.taskState.CallerTurn c g) : g.isOpen = t.isOpen := by
        cases turn with
        | stays | served | declined => rfl
        | admitted _ enters => exact enters.keeps.1.isOpen
      exact kept turn
  | loop id => exact (sound.keeps_stepLoop id).2

lemma Sound.isOpen_settle (sound : Sound S t) : (t.settle S).isOpen = t.isOpen := by
  refine (settle_induction (P := fun u => Sound S u ∧ u.isOpen = t.isOpen) (fun u kept => ?_)
    ⟨sound, rfl⟩).2
  refine ⟨kept.1.next, ?_⟩
  unfold Timeline.next
  split
  · exact kept.2
  next task rest _ => exact ((kept.1.popped rest).isOpen_step task).trans kept.2

lemma Drift.reaches (drift : Drift S t t') (attentive : Attentive S t) : Reaches S t t' := by
  induction drift with
  | refl => exact .refl t
  | beat before beat ih =>
    cases beat with
    | go => exact ih.trans (next_reaches S _)
    | wait => exact ih.trans (moveTo_reaches S _ _)
  | act before a ih => exact ih.trans (Aside.act (before.attentive attentive).sound a).reaches
  | late before isThere late ih => exact ih.trans (late.reaches S)

/-! ### What a fetch brings, and when -/

/-- What a fetch brings that is outstanding, and when. If it has not asked, it asks at once, and its
answers may be held back; if they are, it is not known when the gate opens. -/
inductive Arrives (S : Source σ) (t₀ t : Timeline σ) (f : Fetch) : Gathered → Nat → Prop
  /-- Its answers were on their way. -/
  | waiting {g : Gathered} {until_ : Nat} (stage : f.stage = .waiting g until_) :
      Arrives S t₀ t f g (max t₀.now until_)
  /-- Its answers were held back until some time. -/
  | held {g : Gathered} {delay freed : Nat} (stage : f.stage = .held g delay)
      (later : t₀.now ≤ freed) : Arrives S t₀ t f g (freed + delay)
  /-- It asks when it is its turn, and its answers may be held back until some time. -/
  | asks {items : List String} {w : Timeline σ} {freed : Nat} (stage : f.stage = .begun items)
      (drift : Drift S t w) (now : w.now = t₀.now)
      (turn : w.ready.head? = some (.fetch f.kind f.round)) (later : t₀.now ≤ freed)
      (atOnce : w.isOpen f.kind = true → freed = t₀.now) :
      Arrives S t₀ t f (ask S w f.kind items).1 (freed + (ask S w f.kind items).2.1)

/-- How far a fetch that was outstanding is at a later time. -/
inductive Later (S : Source σ) (t₀ t : Timeline σ) (f : Fetch) (now : Nat) : FetchStage → Prop
  | begun {items : List String} (stage : f.stage = .begun items) (atOnce : now = t₀.now) :
      Later S t₀ t f now (.begun items)
  | held {g : Gathered} {delay : Nat}
      (arrives : ∀ freed, t₀.now ≤ freed → Arrives S t₀ t f g (freed + delay)) :
      Later S t₀ t f now (.held g delay)
  | waiting {g : Gathered} {until_ : Nat} (arrives : Arrives S t₀ t f g (max t₀.now until_))
      (early : now ≤ max t₀.now until_) : Later S t₀ t f now (.waiting g until_)

/-- What has become of a fetch, outstanding at one timeline, by the time that a timeline has drifted
to another. -/
inductive Fate (S : Source σ) (t₀ t : Timeline σ) (f : Fetch) (t' : Timeline σ) : Prop
  /-- It is still outstanding. -/
  | underway {stage : FetchStage} (isThere : ⟨f.kind, f.round, stage⟩ ∈ t'.fetches)
      (later : Later S t₀ t f t'.now stage)
  /-- Its answers have arrived, the store took them, and all who wait for the round get what they
  bring. -/
  | ended {u : Timeline σ} {g : Gathered} (before : Drift S t u)
      (turn : u.ready.head? = some (.fetch f.kind f.round)) (arrives : Arrives S t₀ t f g u.now)
      (store : (u.next S).store = conclude u.store f.round u.now g)
      (after : Drift S (u.next S) t')
      (result : t'.result? f.kind f.round = some (ending t₀.store f.round u.now g))

/-- Whether a timeline has the same clock as another, what is fetched there is fetched, and the same
is known of names. -/
structure Agrees (t₀ t : Timeline σ) : Prop where
  now : t.now = t₀.now
  fetches : t₀.fetches ⊆ t.fetches
  listing : t.store.listing = t₀.store.listing

lemma Agrees.refl (t : Timeline σ) : Agrees t t := ⟨rfl, List.Subset.refl _, rfl⟩

lemma Later.of_stage (now : t.now = t₀.now) : Later S t₀ t f t.now f.stage := by
  cases stage : f.stage with
  | begun items => exact .begun stage now
  | held g delay => exact .held fun freed later => .held stage later
  | waiting g until_ => exact .waiting (.waiting stage) (now ▸ Nat.le_max_left _ _)

lemma Fate.refl (agrees : Agrees t₀ t) (isThere : f ∈ t₀.fetches) : Fate S t₀ t f t :=
  .underway (agrees.fetches isThere) (.of_stage agrees.now)

section

variable {stage : FetchStage} {rest : List TaskId}

/-- A fetch whose answers are there ends its round when it is its turn. -/
lemma Fate.of_endRound {v : Timeline σ} (before : Drift S t u)
    (turn : u.ready.head? = some (.fetch f.kind f.round)) (isEnd : u.next S = v.endRound f.kind f.round g)
    (store : v.store = u.store) (now : v.now = u.now) (ofKind : g.kind = f.kind)
    (arrives : Arrives S t₀ t f g u.now)
    (listing : f.kind = .names → u.store.listing = t₀.store.listing) :
    Fate S t₀ t f (u.next S) := by
  have stored : (u.next S).store = conclude u.store f.round u.now g := by
    have work := congrArg Work.store (work_endRound v f.kind f.round g)
    rw [← isEnd] at work
    rw [← store, ← now]
    exact work
  refine .ended before turn arrives stored .refl ?_
  rw [result?, stored, result?_conclude, if_pos ⟨ofKind, rfl⟩,
    ending_congr fun names => listing (ofKind.symm.trans names)]

/-- A fetch whose answers may arrive waits for them, or they are there. -/
lemma Fate.of_awaitAnswers {v : Timeline σ} {delay : Nat} (before : Drift S t u)
    (turn : u.ready.head? = some (.fetch f.kind f.round))
    (isNext : u.next S = v.awaitAnswers f.kind f.round g delay) (store : v.store = u.store)
    (now : v.now = u.now) (isThere : ⟨f.kind, f.round, stage⟩ ∈ v.fetches) (ofKind : g.kind = f.kind)
    (arrives : Arrives S t₀ t f g (u.now + delay)) (since : t₀.now ≤ u.now)
    (listing : f.kind = .names → u.store.listing = t₀.store.listing) :
    Fate S t₀ t f (u.next S) := by
  unfold awaitAnswers at isNext
  split at isNext
  next atOnce =>
    rw [atOnce] at arrives
    exact .of_endRound before turn isNext store now ofKind arrives listing
  next =>
    have until_ : max t₀.now (v.now + delay) = u.now + delay := by omega
    rw [isNext]
    refine .underway (List.mem_map.mpr ⟨_, isThere, if_pos ⟨rfl, rfl⟩⟩) (.waiting (until_ ▸ arrives) ?_)
    change v.now ≤ _
    omega

/-- When it is the turn of a fetch that is outstanding, no other goes on. -/
lemma Sound.fetchTurn_own (sound : Sound S u) (isThere : f ∈ u.fetches) :
    FetchTurn S u f (u.stepFetch S f.kind f.round) := by
  obtain ⟨-, gone⟩ | ⟨f', isThere', kind, round, turns⟩ := fetchTurn S u f.kind f.round
  · exact absurd ⟨rfl, rfl⟩ (gone _ isThere)
  · have mem : f' ∈ u.fetches.filter fun f' => f'.kind = f.kind :=
      List.mem_filter.mpr ⟨isThere', by simpa using kind⟩
    obtain rfl : f' = f := List.mem_singleton.mp (sound.fetches_eq isThere ▸ mem)
    exact turns

/-- What happens to an outstanding fetch when it is its turn. -/
lemma Fate.turn (before : Drift S t u) (sound : Sound S u)
    (isReady : u.ready = .fetch f.kind f.round :: rest)
    (isThere : ⟨f.kind, f.round, stage⟩ ∈ u.fetches) (later : Later S t₀ t f u.now stage)
    (since : t₀.now ≤ u.now) (listing : f.kind = .names → u.store.listing = t₀.store.listing) :
    Fate S t₀ t f (u.next S) := by
  let popped : Timeline σ := { u with ready := rest }
  have sound : Sound S popped := sound.popped rest
  have turn : u.ready.head? = some (.fetch f.kind f.round) := by rw [isReady, List.head?_cons]
  have next : u.next S = popped.stepFetch S f.kind f.round := by rw [Timeline.next, isReady]; rfl
  -- It makes no difference to the answers that the task is no longer ready, and asking takes no time
  -- and leaves the store and the fetches alone.
  have ask (items : List String) : ask S popped f.kind items
      = ((ask S u f.kind items).1, (ask S u f.kind items).2.1, (ask S u f.kind items).2.2.1,
        (ask S u f.kind items).2.2.2.besides u.callers rest u.unseen) :=
    ask_besides u u.callers rest u.unseen S f.kind items
  have same (items : List String) : (asked S popped f.kind items).taskState = popped.taskState :=
    taskState_asked S popped f.kind items
  have fetches (items : List String) : (asked S popped f.kind items).fetches = u.fetches :=
    congrArg TaskState.fetches (same items)
  have store (items : List String) : (asked S popped f.kind items).store = u.store := by
    obtain ⟨_, -, work⟩ := work_ask S popped f.kind items
    exact congrArg Work.store work
  have turns := sound.fetchTurn_own isThere
  rw [← next] at turns
  generalize isNext : u.next S = v at turns
  cases turns with
  | stays => exact .underway isThere later
  | @holds items begun closed =>
    obtain rfl : stage = .begun items := begun
    cases later with
    | begun stage atOnce =>
      have isClosed : u.isOpen f.kind = false :=
        (congrFun (congrArg TaskState.isOpen (same items)) f.kind).symm.trans closed
      have arrives (freed : Nat) (later : t₀.now ≤ freed) : Arrives S t₀ t f
          (Timeline.ask S u f.kind items).1 (freed + (Timeline.ask S u f.kind items).2.1) := by
        refine .asks stage before atOnce turn later fun isOpen => ?_
        rw [isClosed] at isOpen
        cases isOpen
      refine .underway ?_ (.held arrives)
      rw [ask]
      refine List.mem_map.mpr ⟨⟨f.kind, f.round, .begun items⟩, ?_, if_pos ⟨rfl, rfl⟩⟩
      exact fetches items ▸ isThere
  | @hears items begun =>
    obtain rfl : stage = .begun items := begun
    cases later with
    | begun stage atOnce =>
      rw [← isNext]
      rw [ask] at isNext
      refine .of_awaitAnswers before turn isNext (store items)
        (congrArg TaskState.now (same items)) (fetches items ▸ isThere)
        (kind_ask S u f.kind items) ?_
        since listing
      rw [atOnce]
      exact .asks stage before atOnce turn (Nat.le_refl _) fun _ => rfl
  | @freed g delay held isOpen =>
    obtain rfl : stage = .held g delay := held
    cases later with
    | held arrives =>
      rw [← isNext]
      exact .of_awaitAnswers before turn isNext rfl rfl isThere (sound.ofKind isThere rfl)
        (arrives _ since) since listing
  | @ends g until_ waiting arrived =>
    obtain rfl : stage = .waiting g until_ := waiting
    cases later with
    | waiting arrives early =>
      have arrived : until_ ≤ u.now := arrived
      rw [← isNext]
      refine .of_endRound before turn isNext rfl rfl (sound.ofKind isThere rfl) ?_ listing
      rwa [Nat.le_antisymm early (Nat.max_le.mpr ⟨since, arrived⟩)]

lemma now_moveTo (t : Timeline σ) (time : Nat) : (t.moveTo time).now = max t.now time :=
  congrArg TaskState.now (taskState_moveTo t time)

/-- Time does not go back. -/
lemma Drift.now_le (drift : Drift S t t') (attentive : Attentive S t) : t.now ≤ t'.now := by
  induction drift with
  | refl => exact Nat.le_refl _
  | beat before beat ih =>
    cases beat with
    | go => exact ih.trans (Nat.le_of_eq (before.attentive attentive).sound.now_next.symm)
    | wait => exact ih.trans (now_moveTo _ _ ▸ Nat.le_max_left _ _)
  | act before a ih =>
    exact ih.trans (Nat.le_of_eq (Aside.act (before.attentive attentive).sound a).now.symm)
  | late before isThere late ih =>
    have sound := (before.attentive attentive).sound
    obtain ⟨_, shifts⟩ := late.shifts sound.isAhead (sound.fit.plain _ isThere)
    exact ih.trans (Nat.le_of_eq (shifts.keeps.now : _ = _).symm)

/-- What has ended stays so. -/
lemma Fate.extend {v : Timeline σ} (fate : Fate S t₀ t f u) (attentive : Attentive S t)
    (before : Drift S t u) (more : Drift S u v)
    (underway : ∀ {stage}, ⟨f.kind, f.round, stage⟩ ∈ u.fetches → Later S t₀ t f u.now stage →
      Fate S t₀ t f v) : Fate S t₀ t f v := by
  cases fate with
  | underway isThere later => exact underway isThere later
  | ended first turn arrives store after result =>
    have attentive := before.attentive attentive
    exact .ended first turn arrives store (after.trans more)
      (attentive.sound.result?_kept (more.reaches attentive) result)

section

variable {stage : FetchStage}

/-- What happens to an outstanding fetch when the next ready task goes on. -/
lemma Fate.go (before : Drift S t u) (attentive : Attentive S t) (agrees : Agrees t₀ t)
    (atFirst : f ∈ t₀.fetches) (isThere : ⟨f.kind, f.round, stage⟩ ∈ u.fetches)
    (later : Later S t₀ t f u.now stage) : Fate S t₀ t f (u.next S) := by
  have attentive' := before.attentive attentive
  have listing (ofNames : f.kind = .names) : u.store.listing = t₀.store.listing := by
    rw [← agrees.listing]
    exact attentive.sound.listing_of_outstanding (before.reaches attentive)
      (agrees.fetches atFirst) isThere ofNames rfl rfl
  cases isReady : u.ready with
  | nil =>
    rw [Timeline.next, isReady]
    exact .underway isThere later
  | cons task rest =>
    by_cases own : task = .fetch f.kind f.round
    · subst own
      exact .turn before attentive'.sound isReady isThere later
        (agrees.now ▸ before.now_le attentive) listing
    · have now := attentive'.sound.now_next
      have there : ⟨f.kind, f.round, stage⟩ ∈ (u.next S).fetches := by
        rw [Timeline.next, isReady]
        exact (attentive'.sound.popped rest).mem_step isThere own
      exact .underway there (now ▸ later)

/-- When nothing can go on, an outstanding fetch waits for its answers, or for the gate. -/
lemma Later.wait {time : Nat} (attentive : Attentive S u) (rest : u.ready = [])
    (isThere : ⟨f.kind, f.round, stage⟩ ∈ u.fetches) (soon : ∀ timer ∈ u.timers, time ≤ timer.due)
    (later : Later S t₀ t f u.now stage) : Later S t₀ t f (u.moveTo time).now stage := by
  have idle (due : u.taskState.fetchDue ⟨f.kind, f.round, stage⟩) : False :=
    attentive.not_due rest _ (.fetch isThere due)
  cases later with
  | begun => exact (idle trivial).elim
  | held arrives => exact .held arrives
  | @waiting g until_ arrives early =>
    have later : u.now < until_ := Nat.lt_of_not_le idle
    have timer := attentive.timed.fetches _ isThere g until_ rfl later
    refine .waiting arrives ?_
    rw [now_moveTo]
    exact Nat.max_le.mpr ⟨early, (soon _ timer).trans (Nat.le_max_right _ _)⟩

end

/-- A fetch that is outstanding stays on its way, or its round ends with what was settled. -/
theorem Drift.fate (drift : Drift S t t') (attentive : Attentive S t) (agrees : Agrees t₀ t)
    (isThere : f ∈ t₀.fetches) : Fate S t₀ t f t' := by
  induction drift with
  | refl => exact .refl agrees isThere
  | @beat u v before beat ih =>
    refine ih.extend attentive before (.beat .refl beat) fun isThere' later => ?_
    cases beat with
    | go => exact .go before attentive agrees isThere isThere' later
    | @wait rest time soon =>
      have fetches : (u.moveTo time).fetches = u.fetches :=
        congrArg TaskState.fetches (taskState_moveTo u time)
      exact .underway (fetches ▸ isThere') (later.wait (before.attentive attentive) rest isThere' soon)
  | @act u before a ih =>
    refine ih.extend attentive before (.act .refl a) fun isThere' later => ?_
    have aside := Aside.act (before.attentive attentive).sound a
    exact .underway (aside.fetches _ isThere') (aside.now ▸ later)
  | @late u v l which before isLoop late ih =>
    refine ih.extend attentive before (.late .refl isLoop late) fun isThere' later => ?_
    have sound := (before.attentive attentive).sound
    obtain ⟨_, shifts⟩ := late.shifts sound.isAhead (sound.fit.plain l isLoop)
    have now : v.now = u.now := shifts.keeps.now
    exact .underway (late.fetches_subset sound isLoop isThere') (now ▸ later)

/-- What a fetch brings whose answers are on their way is settled: two timelines that agree drift to
the same. -/
lemma Arrives.settled {until_ : Nat} (stage : f.stage = .waiting g until_) {g' : Gathered}
    {time : Nat} (arrives : Arrives S t₀ t f g' time) : g' = g ∧ time = max t₀.now until_ := by
  cases arrives with
  | waiting stage' =>
    obtain ⟨rfl, rfl⟩ := FetchStage.waiting.inj (stage'.symm.trans stage)
    exact ⟨rfl, rfl⟩
  | held stage' | asks stage' =>
    rw [stage] at stage'
    cases stage'

lemma Later.settled {until_ now : Nat} (stage : f.stage = .waiting g until_) {stage' : FetchStage}
    (later : Later S t₀ t f now stage') :
    ∃ until', stage' = .waiting g until' ∧ max t₀.now until' = max t₀.now until_ := by
  cases later with
  | begun begun =>
    rw [stage] at begun
    cases begun
  | held arrives =>
    -- The gate would settle when the answers arrive, but it is settled.
    have once := ((arrives _ (Nat.le_refl _)).settled stage).2
    have later := ((arrives _ (Nat.le_succ _)).settled stage).2
    omega
  | waiting arrives =>
    obtain ⟨rfl, same⟩ := arrives.settled stage
    exact ⟨_, rfl, same⟩

/-! ### The end -/

/-- Once nothing can go on, a fetch waits for its answers or for the gate. -/
lemma Attentive.later_of_rest (h : Attentive S u) (rest : u.ready = [])
    (isThere : ⟨f.kind, f.round, stage⟩ ∈ u.fetches) (isOpen : u.isOpen f.kind = true) :
    ∃ g until_, stage = .waiting g until_ ∧ u.now < until_ := by
  have idle (due : u.taskState.fetchDue ⟨f.kind, f.round, stage⟩) : False :=
    h.not_due rest _ (.fetch isThere due)
  cases stage with
  | begun => exact (idle trivial).elim
  | held => exact (idle isOpen).elim
  | waiting g until_ => exact ⟨g, until_, rfl, Nat.lt_of_not_le idle⟩

/-- A fetch whose answers are not held back comes to its end, whatever else goes on. -/
theorem Attentive.ends (h : Attentive S t) (isThere : f ∈ t.fetches)
    (isOpen : t.isOpen f.kind = true) :
    ∃ u, Lapse S t u ∧ u.result? f.kind f.round ≠ none := by
  have settled := h.settle
  have settling := Attentive.settle_lapse (S := S) t
  have rest := h.sound.ready_settle
  cases (Course.refl.lapse settling).drift.fate h (.refl _) isThere with
  | ended _ _ _ _ _ result => exact ⟨_, settling, by rw [result]; exact nofun⟩
  | underway isThere' =>
    obtain ⟨g, until_, rfl, early⟩ := settled.later_of_rest rest isThere'
      (by rw [h.sound.isOpen_settle]; exact isOpen)
    -- The answers arrive when the clock has come to their time.
    let after := (t.settle S).advance S (until_ - (t.settle S).now)
    have advancing : Lapse S (t.settle S) after := settled.advance_lapse _
    obtain ⟨now, rest'⟩ : after.now = (t.settle S).now + (until_ - (t.settle S).now) ∧
        after.ready = [] := settled.now_advance _
    refine ⟨after, settling.trans advancing, ?_⟩
    cases (Course.refl.lapse advancing).drift.fate settled (.refl _) isThere' with
    | ended _ _ _ _ _ result =>
      rw [result]
      exact nofun
    | underway isThere'' later =>
      obtain ⟨until', rfl, same⟩ := later.settled rfl
      refine (settled.lapse advancing).not_due rest' _ (.fetch isThere'' ?_) |>.elim
      change until' ≤ after.now
      omega

end

end MetricWatch.Timeline
