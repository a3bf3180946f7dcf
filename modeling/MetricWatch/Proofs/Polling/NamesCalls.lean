import MetricWatch.Proofs.Polling.Outstanding
import MetricWatch.Proofs.Rounds.Nodes

/-!
# Calls for names

A schedule that was brought the nodes, or an error in their place, calls for a names round. Unless the
directory was never given any nodes the call gets one: the round that is outstanding, or else another
one, which asks the nodes that the directory holds now before any time passes. Only a round that
broke off stands in the way. The main statements are `Pieces.asked` and `takesNodes`.
-/

namespace MetricWatch

/-- Along steps one after the other something goes on to hold, or it ends at one of the steps with an
event. -/
lemma until_event {α : Type} {R : α → α → Prop} {Q : α → Prop} {E : α → α → Prop}
    (step : ∀ u v, R u v → Q u → Q v ∨ E u v) {t t' : α} (steps : Relation.ReflTransGen R t t')
    (start : Q t) : Q t' ∨ ∃ u v, Relation.ReflTransGen R t u ∧ Q u ∧ R u v ∧ E u v ∧
      Relation.ReflTransGen R v t' := by
  induction steps with
  | refl => exact .inl start
  | @tail u v before last ih =>
    rcases ih with holds | ⟨a, b, first, holds, leads, event, after⟩
    · exact (step u v last holds).imp_right fun event => ⟨u, v, before, holds, last, event, .refl⟩
    · exact .inr ⟨a, b, first, holds, leads, event, after.tail last⟩

namespace Timeline

variable {σ : Type} {S : Source σ} {t₀ t t' : Timeline σ} {l : Poller.Loop} {which : Poller.Which}
  {marks : List Mark} {round : Nat} {nodes : List String}

/-! ### Pieces -/

lemma Turn.reaches (turn : Turn S t l which t') : Reaches S t t' := by
  cases turn with
  | stops | arms => exact .aside rfl
  | ticks => exact tick_reaches S t ..
  | takesNodes => exact takeNodes_reaches S t ..
  | takesRound => exact .aside (by rw [work_takeRound, work_noteAll])

lemma Piece.reaches (piece : Piece S t t') : Reaches S t t' := by
  cases piece with
  | look _ look =>
    cases look with
    | turn turn => exact turn.reaches
    | late late => exact late.reaches S
  | fetch _ _ reaches => exact reaches
  | wait => exact moveTo_reaches S t _
  | aside aside => exact aside.reaches

lemma Pieces.reaches (pieces : Pieces S t t') : Reaches S t t' := by
  induction pieces with
  | refl => exact .refl t
  | tail _ last ih => exact ih.trans last.piece.reaches

lemma Pieces.sound (pieces : Pieces S t t') (sound : Sound S t) : Sound S t' := by
  cases pieces with
  | refl => exact sound
  | tail _ last => exact last.after

lemma Look.shifts (sound : Sound S t) (isThere : l ∈ t.loops) (look : Look S t l which t') :
    ∃ s', t.taskState.Shifts l which s' t'.taskState := by
  have plain := sound.fit.plain l isThere
  cases look with
  | turn turn =>
    obtain ⟨s', goes⟩ := (turn.taskState sound.isAhead plain).goes
    exact ⟨s', goes.shifts⟩
  | late late => exact late.shifts sound.isAhead plain

lemma Look.fetches_subset (sound : Sound S t) (isThere : l ∈ t.loops) (look : Look S t l which t') :
    t.fetches ⊆ t'.fetches := by
  cases look with
  | turn turn => exact (turn.taskState sound.isAhead (sound.fit.plain l isThere)).fetches_subset
  | late late => exact late.fetches_subset sound isThere

/-! ### A round asks its nodes -/

/-- A fetch that has not asked is still there at the same time, or it is its turn. -/
lemma Piece.begun (sound : Sound S t) (piece : Piece S t t') {f : Fetch} (isThere : f ∈ t.fetches)
    (begun : f.stage = .begun nodes) : f ∈ t'.fetches ∧ t'.now = t.now ∨ FetchTurn S t f t' := by
  cases piece with
  | look isLoop look =>
    obtain ⟨_, shifts⟩ := look.shifts sound isLoop
    exact .inl ⟨look.fetches_subset sound isLoop isThere, shifts.keeps.now⟩
  | @fetch _ f' isThere' turn =>
    have taskState := turn.taskState fun _ => sound.ofKind isThere'
    by_cases own : f.kind = f'.kind ∧ f.round = f'.round
    · have mem : f' ∈ t.fetches.filter fun f' => f'.kind = f.kind :=
        List.mem_filter.mpr ⟨isThere', by simp [own.1]⟩
      rw [sound.fetches_eq isThere] at mem
      exact .inr (List.mem_singleton.mp mem ▸ turn)
    · exact .inl ⟨taskState.mem_other isThere own, taskState.same.1⟩
  | wait attentive rest =>
    refine (attentive.not_due rest _ (.fetch isThere ?_)).elim
    simp [TaskState.fetchDue, begun]
  | aside aside => exact .inl ⟨aside.fetches f isThere, aside.now⟩

/-- Once it was its turn, a fetch has asked. -/
lemma TaskState.FetchTurn.asked {g g' : TaskState} {f : Fetch} (turn : g.FetchTurn f g')
    (begun : f.stage = .begun nodes) (items : List String) :
    ⟨f.kind, f.round, .begun items⟩ ∉ g'.fetches := by
  intro mem
  have put {stage : FetchStage} (isLater : ∀ items, stage ≠ .begun items)
      (mem : ⟨f.kind, f.round, .begun items⟩ ∈ (g.setStage f.kind f.round stage).fetches) : False := by
    obtain ⟨f₀, -, same⟩ := List.mem_map.mp mem
    split at same
    next => exact isLater items (congrArg Fetch.stage same)
    next other => exact other (same ▸ ⟨rfl, rfl⟩)
  cases turn with
  | stays patient =>
    rcases patient with ⟨_, held, -⟩ | ⟨_, waiting, -⟩
    · cases held.symm.trans begun
    · cases waiting.symm.trans begun
  | holds => exact put (fun _ same => by cases same) mem
  | waits => exact put (fun _ same => by cases same) mem
  | ends => simp [finish] at mem

/-- Whether a names round, on its way from one timeline to another, is about to ask its nodes, or has
asked them at the time at which it started and does not ask again. -/
inductive Asked (S : Source σ) (namesNamespace : String) (round : Nat) (nodes : List String)
    (t t' : Timeline σ) : Prop
  /-- Before it has asked no time passes, and not everything has settled. -/
  | soon (isThere : ⟨.names, round, .begun nodes⟩ ∈ t'.fetches) (now : t'.now = t.now)
      (unsettled : Attentive S t' → t'.ready ≠ [])
  | asked {u v : Timeline σ} (before : Pieces S t u) (now : u.now = t.now)
      (asks : Asks S namesNamespace nodes u v) (after : Pieces S v t')
      (once : ∀ items, ⟨.names, round, .begun items⟩ ∉ t'.fetches)

lemma FetchTurn.asks {nodes : List String}
    (turn : FetchTurn S t ⟨.names, round, .begun nodes⟩ t') :
    Asks S t.store.namesNamespace nodes t t' := by
  have asks := asks_askNames S nodes t
  generalize isFetch : (⟨.names, round, .begun nodes⟩ : Fetch) = f at turn
  cases turn with
  | stays patient =>
    subst isFetch
    rcases patient with ⟨_, held, -⟩ | ⟨_, waiting, -⟩
    · cases held
    · cases waiting
  | holds begun =>
    subst isFetch
    obtain rfl := FetchStage.begun.inj begun
    exact asks.congr rfl
  | hears begun =>
    subst isFetch
    obtain rfl := FetchStage.begun.inj begun
    exact asks.congr (questions_awaitAnswers ..)
  | freed held =>
    subst isFetch
    cases held
  | ends waiting =>
    subst isFetch
    cases waiting

/-- A names round that has started asks its nodes before any time passes. -/
lemma Pieces.asked (pieces : Pieces S t t') (isThere : ⟨.names, round, .begun nodes⟩ ∈ t.fetches) :
    Asked S t.store.namesNamespace round nodes t t' := by
  let f : Fetch := ⟨.names, round, .begun nodes⟩
  have fate := until_event (Q := fun u => f ∈ u.fetches ∧ u.now = t.now)
    (E := fun u v => FetchTurn S u f v) (fun u v leads kept =>
      (leads.piece.begun leads.sound kept.1 rfl).imp_left fun still => ⟨still.1, still.2.trans kept.2⟩)
    pieces ⟨isThere, rfl⟩
  rcases fate with ⟨isThere, now⟩ | ⟨u, v, before, ⟨isThere, now⟩, leads, turn, after⟩
  · exact .soon isThere now fun attentive rest =>
      attentive.not_due rest _ (.fetch isThere (show t'.taskState.fetchDue f from trivial))
  · obtain ⟨_, path⟩ := Pieces.reaches before
    obtain ⟨_, run⟩ := leads.sound.run
    obtain ⟨_, asking⟩ := leads.piece.reaches
    obtain ⟨_, more⟩ := Pieces.reaches after
    -- The round started on the way to its turn, and rounds that start later have other numbers.
    have done : IsDone v.work .names round := by
      have started := (((run.orderly.phase .names).isFetched_iff (run.orderly.decreasing .names)
        round).mp ⟨f, Work.mem_fetchesOf.mpr isThere, rfl⟩).1
      refine ⟨Nat.lt_of_lt_of_le ((run.orderly.isStarted_iff .names round).mp started)
        (asking.nextRound_le .names), ?_⟩
      exact (turn.taskState fun _ => leads.sound.ofKind isThere).asked rfl
    have asks := turn.asks
    rw [path.namesNamespace] at asks
    exact .asked before now asks after (more.isDone done).asked

/-! ### A call and what it meets -/

/-- The stage at which a call leaves its schedule. -/
def stageAfter (failed : Bool) : Option Nat → Poller.Stage
  | none => .resting false
  | some round => .inRound round failed

/-- A schedule that calls for its round leaves the work to the call and goes on by what it met. -/
lemma work_beginRound (t : Timeline σ) (id : Nat) (which : Poller.Which) (s : Poller.Schedule)
    (failed : Bool) : ∃ met,
      CallWork t.work (kindOf which) (t.store.call (kindOf which)).1 met
        (t.beginRound id which s failed).work ∧
      (t.beginRound id which s failed).loops
        = (t.taskState.setSchedule id which { s with stage := stageAfter failed met }).loops := by
  have called := t.work_call (kindOf which)
  have loops := t.loops_call (kindOf which)
  unfold beginRound
  generalize t.call (kindOf which) = met at called loops
  obtain ⟨met, after⟩ := met
  replace loops : after.loops = t.loops := loops
  have put (s' : Poller.Schedule) : (after.setSchedule id which s').loops
      = (t.taskState.setSchedule id which s').loops := by
    change after.loops.map _ = t.loops.map _
    rw [loops]
  refine ⟨met, ?_⟩
  cases met with
  | none => cases failed <;> exact ⟨called, put _⟩
  | some round => exact ⟨called, put _⟩

/-- What the call of a names schedule comes to; `w` is the work before the call. -/
inductive NamesCall (S : Source σ) (w : Work) (id : Nat) (failed : Bool) (t' : Timeline σ) : Prop
  /-- No nodes are known: nothing is fetched, and the tick is over. -/
  | unknown (unknown : w.store.directory.nodes = none) (work : t'.work = w)
      (rests : t'.errand id .names = none)
  /-- A names round is outstanding: the call joins it, and nothing else is fetched. -/
  | joins {nodes : List String} {f : Fetch} (known : w.store.directory.nodes = some nodes)
      (outstanding : f ∈ w.fetches) (ofNames : f.kind = .names) (work : t'.work = w)
      (waits : t'.errand id .names = some (.inRound f.round failed))
  /-- The last names round broke off and is stuck: nothing is fetched, and its error is what the call
  gets. -/
  | stuck {nodes : List String} {round : Nat} (known : w.store.directory.nodes = some nodes)
      (nothing : w.fetchesOf .names = [])
      (breaks : ∃ node namesNamespace, S.Breaks node namesNamespace) (work : t'.work = w)
      (waits : t'.errand id .names = some (.inRound round failed))
      (meets : ∃ text, w.store.result? .names round
        = some (.failed .names (Slot.breakdown round text)))
  /-- No names round is outstanding: another one asks the nodes that are known. -/
  | starts {nodes : List String} (known : w.store.directory.nodes = some nodes)
      (nothing : w.fetchesOf .names = []) (work : t'.work = w.start .names nodes)
      (waits : t'.errand id .names = some (.inRound (w.store.nextRound .names) failed))
      (asks : ∀ t'', Pieces S t' t'' →
        Asked S w.store.namesNamespace (w.store.nextRound .names) nodes t' t'')

/-- A call leaves the directory as it is. -/
lemma NamesCall.directory {w : Work} {id : Nat} {failed : Bool} (h : NamesCall S w id failed t') :
    t'.store.directory = w.store.directory := by
  cases h with
  | unknown _ work | joins _ _ _ work | stuck _ _ _ work | starts _ _ work =>
    exact congrArg (fun w => w.store.directory) work

/-- A names schedule calls in one of these ways. -/
lemma namesCall_beginRound (run : Run S marks t) (fit : t.taskState.Fit) (isThere : l ∈ t.loops)
    (s : Poller.Schedule) (failed : Bool) :
    NamesCall S t.work l.id failed (t.beginRound l.id .names s failed) := by
  obtain ⟨met, called, loops⟩ := t.work_beginRound l.id .names s failed
  have errand := errand_setSchedule fit isThere loops l.id .names
  rw [if_pos ⟨rfl, rfl⟩] at errand
  generalize t.beginRound l.id .names s failed = t' at called errand
  generalize (t.store.call (kindOf .names)).1 = admission, work : t'.work = w' at called
  cases called with
  | declined refused => exact .unknown refused work errand
  | @joined round nodes admitted occupied =>
    rcases run.fetched_or_stuck occupied with
      ⟨f, outstanding, ofNames, rfl⟩ | ⟨nothing, breaks, meets⟩
    · exact .joins admitted outstanding ofNames work errand
    · exact .stuck admitted nothing breaks work errand meets
  | @started nodes admitted vacant =>
    have nothing : t.work.fetchesOf .names = [] := (run.orderly.phase .names).fetches_of_vacant vacant
    have store : t'.store = (t.work.start .names nodes).store := congrArg Work.store work
    have isThere : ⟨.names, t.store.nextRound .names, .begun nodes⟩ ∈ t'.fetches := by
      have fetches : t'.fetches = (t.work.start .names nodes).fetches := congrArg Work.fetches work
      rw [fetches]
      exact List.mem_append_right _ (List.mem_singleton_self _)
    refine .starts admitted nothing work errand fun t'' pieces => ?_
    have asked := pieces.asked isThere
    rw [store] at asked
    exact asked

/-- What a names schedule does when a refresh of the nodes has brought something, on a timeline that came
out of `t₀`. -/
structure TakesNodes (S : Source σ) (t₀ t : Timeline σ) (id : Nat)
    (brought : Except Api.Error (List String)) (t' : Timeline σ) : Prop where
  /-- The nodes that were brought are those that the directory holds from then on, and their number is
  what the refresh tells. -/
  replaced : ∀ nodes, brought = .ok nodes →
    t.store.refresh brought = (.ok nodes.length, { t.store with directory := .ofList nodes })
  /-- An error changes nothing. -/
  kept : ∀ e, brought = .error e → t.store.refresh brought = (.error e, t.store)
  /-- The directory holds nothing if it held nothing at first and was never given anything. -/
  unpopulated : ∃ marks, Path S t₀ marks t ∧
    ((t.store.refresh brought).2.directory.nodes = none ↔ t₀.store.directory.nodes = none ∧
      (∀ nodes, .chore (.updateNodes nodes) ∉ marks) ∧ ∀ nodes, brought ≠ .ok nodes)
  /-- Exactly then a call for names is declined. -/
  declined_iff : ((t.store.refresh brought).2.call .names).1 = none ↔
    (t.store.refresh brought).2.directory.nodes = none
  /-- The directory is left as it is then. -/
  directory : t'.store.directory = (t.store.refresh brought).2.directory
  /-- In any case there is a call, at once. -/
  calls : NamesCall S { t.work with store := (t.store.refresh brought).2 } id
    (Poller.isFailed brought) t'
  now : t'.now = t.now

lemma call_names_eq_none {s : Store} : (s.call .names).1 = none ↔ s.directory.nodes = none := by
  cases s.calls .names with
  | declined refused call =>
    rw [call]
    exact ⟨fun _ => refused, fun _ => rfl⟩
  | joined admitted _ call | started admitted _ call =>
    rw [call, show s.directory.nodes = _ from admitted]
    exact ⟨nofun, nofun⟩

/-- Whatever was brought, a names schedule calls for its round. -/
lemma namesCall_takeNodes (sound : Sound S t) (isThere : l ∈ t.loops) (s : Poller.Schedule)
    (brought : Except Api.Error (List String)) :
    NamesCall S { t.work with store := t.store.refreshed brought } l.id (Poller.isFailed brought)
      (t.takeNodes l.id s brought) := by
  obtain ⟨_, run⟩ := sound.run
  cases brought with
  | ok nodes =>
    let updated : Timeline σ := { t with store := t.store.updateNodes nodes }
    obtain ⟨_, run⟩ := run.reaches (.move (.chore t (.updateNodes nodes)))
    have fit : updated.taskState.Fit := (t.taskState_updateNodes nodes).symm ▸ sound.fit
    exact namesCall_beginRound (t := updated) run fit isThere s false
  | error e =>
    let warned := t.note (.warn "Node list refresh failed, keeping previous nodes")
    have warns : Reaches S t warned := .aside rfl
    obtain ⟨_, run⟩ := run.reaches warns
    exact namesCall_beginRound (t := warned) run sound.fit isThere s true

/-- A names schedule takes what was brought. -/
lemma takesNodes {u : Timeline σ} (reaches : Reaches S t₀ t) (sound : Sound S u)
    (work : u.work = t.work) (now : u.now = t.now) (isThere : l ∈ u.loops) (s : Poller.Schedule)
    (brought : Except Api.Error (List String)) :
    TakesNodes S t₀ t l.id brought (u.takeNodes l.id s brought) := by
  obtain ⟨marks, path⟩ := reaches
  have store : u.store = t.store := congrArg Work.store work
  have calls := namesCall_takeNodes sound isThere s brought
  rw [work, store, ← Store.snd_refresh] at calls
  refine ⟨?_, ?_, ⟨marks, path, ?_⟩, call_names_eq_none, calls.directory, calls, ?_⟩
  · rintro nodes rfl
    rfl
  · rintro e rfl
    rfl
  · cases brought with
    | ok nodes =>
      refine ⟨nofun, fun never => ?_⟩
      exact absurd rfl (never.2.2 nodes)
    | error e =>
      refine path.nodes_eq_none_iff.trans (and_congr_right fun _ => ?_)
      exact ⟨fun never => ⟨never, nofun⟩, fun never => never.1⟩
  · obtain ⟨keeps, -⟩ := (taskState_takeNodes sound.isAhead l.id s brought).keeps
    exact keeps.now.trans now

end Timeline

end MetricWatch
