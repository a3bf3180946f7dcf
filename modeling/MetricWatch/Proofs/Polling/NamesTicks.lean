import MetricWatch.Proofs.Api.Refreshes
import MetricWatch.Proofs.Polling.NamesCalls

/-!
# Names ticks

A names tick asks the cluster for its nodes first. When the answer or an error is there the schedule
calls for a names round, whatever came and whatever else happened meanwhile, unless the loop of the
schedule was cancelled. A names round that broke off stays in the way of all later ticks. The main
statement is `Pieces.names_ticked`, and `not_always_asked` shows a tick that does not ask.
-/

namespace MetricWatch.Timeline

variable {σ : Type} {S : Source σ} {t₀ t t' u : Timeline σ} {l : Poller.Loop} {id until_ : Nat}
  {brought : Except Api.Error (List String)}

/-! ### Waiting for the nodes -/

/-- Whether the names schedule of a loop that nobody has cancelled waits for the nodes. -/
structure Refreshing (t : Timeline σ) (id until_ : Nat) (brought : Except Api.Error (List String)) :
    Prop where
  errand : t.errand id .names = some (.refreshing until_ brought)
  live : ∀ l ∈ t.loops, l.id = id → l.cancelled = false
  early : t.now ≤ until_

/-- Whether a loop has been cancelled. -/
def IsCancelled (t : Timeline σ) (id : Nat) : Prop :=
  ∃ l ∈ t.loops, l.id = id ∧ l.cancelled = true

/-- A schedule that asked for the nodes and is not answered at once waits for them. -/
lemma refreshing_arm (fit : t.taskState.Fit) (isThere : l ∈ t.loops) (live : l.cancelled = false)
    (s : Poller.Schedule) (later : t.now ≤ until_) (brought : Except Api.Error (List String)) :
    Refreshing ((t.setSchedule l.id .names { s with stage := .refreshing until_ brought }).arm
      until_ (.loop l.id)) l.id until_ brought := by
  refine ⟨?_, fun l' mem own => ?_, later⟩
  · exact (errand_setSchedule fit isThere rfl l.id .names).trans (if_pos ⟨rfl, rfl⟩)
  · rcases TaskState.mem_setSchedule fit isThere mem with ⟨-, other⟩ | rfl
    · exact absurd own other
    · exact live

/-- Who waits for the nodes is a loop. -/
lemma Refreshing.loop (h : Refreshing t id until_ brought) (fit : t.taskState.Fit) :
    ∃ l ∈ t.loops, l.id = id ∧ l.cancelled = false ∧ l.names.stage = .refreshing until_ brought := by
  obtain ⟨l, isThere, rfl⟩ := mem_of_errand (h.errand ▸ Option.some_ne_none _)
  have stage := (errand_of_mem fit isThere .names).symm.trans h.errand
  refine ⟨l, isThere, rfl, h.live l isThere rfl, ?_⟩
  change l.names.stage.errand? = _ at stage
  cases isStage : l.names.stage <;> rw [isStage] at stage <;> cases stage
  rfl

/-- At rest, a schedule that waits for the nodes has a timer set for them. -/
lemma Refreshing.timer (h : Refreshing t id until_ brought) (attentive : Attentive S t)
    (rest : t.ready = []) : t.now < until_ ∧ ⟨until_, .loop id⟩ ∈ t.timers := by
  obtain ⟨l, isThere, rfl, live, stage⟩ := h.loop attentive.sound.fit
  have later : t.now < until_ := by
    by_contra arrived
    refine attentive.not_due rest _ (.loop isThere fun ease => ?_)
    cases ease.2 .names with
    | stopped isStopped => simp [Poller.Schedule.isStopped, Poller.Loop.schedule, stage] at isStopped
    | resting _ other | inRound _ other => cases stage.symm.trans other
    | refreshing _ same early =>
      obtain ⟨rfl, -⟩ := Poller.Stage.refreshing.inj (stage.symm.trans same)
      exact arrived early
  have alarm : (l.schedule .names).alarm? = some until_ := by
    simp [Poller.Schedule.alarm?, Poller.Loop.schedule, stage]
  exact ⟨later, attentive.timed.loops l isThere .names until_ alarm later⟩

/-- What keeps the loops and the time keeps a schedule waiting. -/
lemma Refreshing.of_loops (h : Refreshing t id until_ brought) (loops : t'.loops = t.loops)
    (now : t'.now ≤ until_) : Refreshing t' id until_ brought :=
  ⟨(errand_congr loops id .names).trans h.errand, loops ▸ h.live, now⟩

/-- A look of another schedule keeps a schedule waiting. -/
lemma Refreshing.shifts {which : Poller.Which} {s : Poller.Schedule}
    (h : Refreshing t id until_ brought) (fit : t.taskState.Fit) (isThere : l ∈ t.loops)
    (other : ¬ (id = l.id ∧ .names = which)) (shifts : t.taskState.Shifts l which s t'.taskState) :
    Refreshing t' id until_ brought := by
  have loops : t'.loops = (t.taskState.setSchedule l.id which s).loops := shifts.loops
  have now : t'.now = t.now := shifts.keeps.now
  refine ⟨?_, fun l' mem own => ?_, now ▸ h.early⟩
  · rw [errand_setSchedule fit isThere loops, if_neg other]
    exact h.errand
  · rw [loops] at mem
    rcases TaskState.mem_setSchedule fit isThere mem with ⟨old, -⟩ | rfl
    · exact h.live l' old own
    · rw [TaskState.id_withSchedule] at own
      exact (by cases which <;> rfl : (l.withSchedule which s).cancelled = l.cancelled).trans
        (h.live l isThere own)

/-- The ways in which a schedule no longer waits for the nodes: they are there and it takes them, or
its loop has been cancelled. -/
inductive Refreshed (t : Timeline σ) (id until_ : Nat) (brought : Except Api.Error (List String))
    (t' : Timeline σ) : Prop
  | takes {l : Poller.Loop} (now : t.now = until_) (isThere : l ∈ t.loops) (own : l.id = id)
      (takes : t' = t.takeNodes id l.names brought) : Refreshed t id until_ brought t'
  | cancelled (cancelled : t'.IsCancelled id) : Refreshed t id until_ brought t'

/-- A schedule goes on to wait for the nodes, or it takes them when they are there, or its loop is
cancelled. -/
lemma Piece.refreshing (sound : Sound S t) (piece : Piece S t t')
    (h : Refreshing t id until_ brought) :
    Refreshing t' id until_ brought ∨ Refreshed t id until_ brought t' := by
  obtain ⟨l₀, isThere₀, rfl, live, stage⟩ := h.loop sound.fit
  cases piece with
  | @look _ l which isThere look =>
    -- Of all looks only its own matters to a schedule.
    by_cases own : l₀.id = l.id ∧ .names = which
    · obtain ⟨same, rfl⟩ := own
      obtain rfl := List.inj_on_of_nodup_map sound.fit.loops isThere₀ isThere same
      cases look with
      | late late =>
        rw [late.cancelled] at live
        cases live
      | turn turn =>
        cases turn with
        | stops cancelled =>
          rw [live] at cancelled
          cases cancelled
        | ticks _ other | arms _ other | takesRound _ other => cases stage.symm.trans other
        | takesNodes _ same arrived =>
          obtain ⟨rfl, rfl⟩ := Poller.Stage.refreshing.inj (stage.symm.trans same)
          exact .inr (.takes (Nat.le_antisymm h.early arrived) isThere₀ rfl rfl)
    · obtain ⟨s, shifts⟩ := look.shifts sound isThere
      exact .inl (h.shifts sound.fit isThere own shifts)
  | fetch _ turn =>
    obtain ⟨now, loops⟩ := (turn.taskState fun _ => sound.ofKind ‹_›).same
    exact .inl (h.of_loops loops (Nat.le_trans (Nat.le_of_eq now) h.early))
  | @wait attentive rest time soon =>
    obtain ⟨-, timer⟩ := h.timer attentive rest
    refine .inl (h.of_loops (loops_moveTo ..) ?_)
    rw [now_moveTo]
    exact Nat.max_le.mpr ⟨h.early, soon _ timer⟩
  | aside aside =>
    by_cases cancelled : t'.IsCancelled l₀.id
    · exact .inr (.cancelled cancelled)
    · refine .inl ⟨(aside.errand _ _).trans h.errand, fun l mem own => ?_, aside.now ▸ h.early⟩
      by_contra gone
      exact cancelled ⟨l, mem, own, by simpa using gone⟩

/-- While nobody begins or cancels a loop, a schedule waits for the nodes until it takes them. -/
lemma Leads.refreshing (leads : Leads S t t') (m : Meanwhile t.loopState t'.loopState)
    (h : Refreshing t id until_ brought) : Refreshing t' id until_ brought ∨
      t.now = until_ ∧ ∃ l ∈ t.loops, l.id = id ∧ t' = t.takeNodes id l.names brought := by
  refine (leads.piece.refreshing leads.sound h).imp_right fun refreshed => ?_
  cases refreshed with
  | takes now isThere own takes => exact ⟨now, _, isThere, own, takes⟩
  | cancelled cancelled =>
    -- The loop would have been cancelled before, since nobody cancels it meanwhile.
    obtain ⟨l, mem, own, cancelled⟩ := cancelled
    obtain ⟨l', mem', same⟩ :=
      List.mem_map.mp (m.tokens.subset (List.mem_map_of_mem (f := Poller.Loop.token) mem))
    have live := h.live l' mem' ((congrArg Poller.Token.id same).trans own)
    rw [show l'.cancelled = l.cancelled from congrArg Poller.Token.cancelled same,
      cancelled] at live
    cases live

/-- Who waits for the nodes gets them when their time has come, if nobody begins or cancels a loop
meanwhile. -/
lemma Refreshing.comes (h : Refreshing t id until_ brought) (attentive : Attentive S t) :
    ∃ u u', Calm S t u ∧ Leads S u u' ∧ u.now = until_ ∧
      ∃ l ∈ u.loops, l.id = id ∧ u' = u.takeNodes id l.names brought := by
  obtain ⟨now, rest⟩ := attentive.now_advance (S := S) (until_ - t.now)
  have lapse : Lapse S t (t.advance S (until_ - t.now)) := attentive.advance_lapse _
  rcases until_event (fun _ _ calm waits => calm.1.refreshing calm.2 waits)
    (attentive.calm_lapse lapse) h with
    waits | ⟨u, u', before, -, ⟨leads, -⟩, ⟨arrived, takes⟩, -⟩
  · -- At rest the time of the nodes is still to come, but the clock has come to it.
    have late := (waits.timer (attentive.lapse lapse) rest).1
    have early := h.early
    rw [now] at late
    omega
  · exact ⟨u, u', before, leads, arrived, takes⟩

/-- What has become of a names tick that waits for the nodes on a timeline `t` which came out of `t₀`,
and gets them at a time. -/
inductive Awaits (S : Source σ) (t₀ t : Timeline σ) (id until_ : Nat)
    (brought : Except Api.Error (List String)) (t' : Timeline σ) : Prop
  /-- It still waits, and unless a loop is begun or cancelled it calls for names in time. -/
  | waiting (waits : Refreshing t' id until_ brought)
      (comes : Attentive S t' → ∃ u u', Calm S t' u ∧ Leads S u u' ∧ u.now = until_ ∧
        TakesNodes S t₀ u id brought u')
  /-- It has called for names, in time. -/
  | called {u u' : Timeline σ} (before : Pieces S t u) (now : u.now = until_)
      (takes : TakesNodes S t₀ u id brought u') (after : Pieces S u' t')
  /-- Its loop was cancelled before it called. -/
  | cutOff {u : Timeline σ} (before : Pieces S t u) (cancelled : u.IsCancelled id)
      (after : Pieces S u t')

/-- Who waits for the nodes calls for names, unless its loop is cancelled. -/
lemma Pieces.awaits (pieces : Pieces S t t') (reaches : Reaches S t₀ t)
    (waits : Refreshing t id until_ brought) : Awaits S t₀ t id until_ brought t' := by
  rcases until_event (fun u v leads => leads.piece.refreshing leads.sound) pieces waits with
    waits | ⟨u, u', before, -, leads, refreshed, after⟩
  · refine .waiting waits fun attentive => ?_
    obtain ⟨u, u', calm, leads, now, l, isThere, rfl, rfl⟩ := waits.comes attentive
    have reaches := (reaches.trans (Pieces.reaches pieces)).trans calm.pieces.reaches
    exact ⟨u, _, calm, leads, now, takesNodes reaches leads.sound rfl rfl isThere l.names brought⟩
  · cases refreshed with
    | @takes l now isThere own takes =>
      subst own takes
      have reaches := reaches.trans (Pieces.reaches before)
      exact .called before now
        (takesNodes reaches leads.sound rfl rfl isThere l.names brought) after
    | cancelled cancelled => exact .cutOff (before.tail leads) cancelled after

/-! ### Ticks -/

/-- What a timeline is answered that asks for the nodes. -/
def nodesAnswer (S : Source σ) (t : Timeline σ) : Answer (Except Api.Error (List String)) :=
  (S.nodes t.source t.store.session t.now).answer

/-- The timeline when a names tick has asked for the nodes. -/
def inquiring (S : Source σ) (t : Timeline σ) : Timeline σ := (t.counted .names).askedNodes S

lemma inquiring_eq (S : Source σ) (t : Timeline σ) : t.inquiring S = { t.counted .names with
    source := (t.inquiring S).source
    notes := (t.inquiring S).notes } := by
  simp [inquiring, askedNodes, noteAll_eq]

lemma work_inquiring (S : Source σ) (t : Timeline σ) : (t.inquiring S).work = t.work := by
  rw [inquiring_eq]
  rfl

lemma now_inquiring (S : Source σ) (t : Timeline σ) : (t.inquiring S).now = t.now := by
  rw [inquiring_eq]
  rfl

lemma loops_inquiring (S : Source σ) (t : Timeline σ) : (t.inquiring S).loops = t.loops := by
  rw [inquiring_eq]
  rfl

lemma Sound.inquiring (h : Sound S t) : Sound S (t.inquiring S) := by
  refine h.of_work (work_inquiring S t) (loops_inquiring S t ▸ .refl _) ?_ ?_
  · rw [inquiring_eq]
    rfl
  · rw [inquiring_eq]
    rfl

/-- A schedule that ticks at a time, with its next tick due. -/
def againAt (s : Poller.Schedule) (now : Nat) : Poller.Schedule :=
  { s with due := Poller.nextDue s.period s.due now }

section

variable (id : Nat) (s : Poller.Schedule)

lemma tick_of_plain (plain : t.refreshes = false) :
    t.tick S id .names s = (t.counted .names).beginRound id .names (againAt s t.now) false :=
  if_neg (ne_true_of_eq_false plain)

lemma tick_of_atOnce (refreshes : t.refreshes = true) (atOnce : (t.nodesAnswer S).delay = 0) :
    t.tick S id .names s = (t.inquiring S).takeNodes id (againAt s t.now) (t.nodesAnswer S).reply :=
  (if_pos refreshes).trans (if_pos atOnce)

lemma tick_of_later (refreshes : t.refreshes = true) (later : (t.nodesAnswer S).delay ≠ 0) :
    t.tick S id .names s = ((t.inquiring S).setSchedule id .names { againAt s t.now with
        stage := .refreshing ((t.inquiring S).now + (t.nodesAnswer S).delay)
          (t.nodesAnswer S).reply }).arm
      ((t.inquiring S).now + (t.nodesAnswer S).delay) (.loop id) :=
  (if_pos refreshes).trans (if_neg later)

end

section

variable {ρ : Type} {net : Http.Network ρ} {c : Api.Client} {S : Source (Api.Wire ρ)}
  {t t₀ u : Timeline (Api.Wire ρ)}

/-- What a names tick of a loop does on a timeline `t` that came out of `t₀`, if the nodes are asked
for over HTTP. -/
structure NamesTick (net : Http.Network ρ) (c : Api.Client) (S : Source (Api.Wire ρ))
    (t₀ t : Timeline (Api.Wire ρ)) (l : Poller.Loop) : Prop where
  /-- The schedule ticks when it is looked at. -/
  ticks : t.stepSchedule S l.id .names = some (t.tick S l.id .names l.names)
  /-- The refresh brings the ids of the answer in order, or an error if there is none: without a
  session, a response in time, a success or a body that lists nodes. -/
  brings : ∀ ids, (t.nodesAnswer S).reply = .ok ids ↔
    ∃ answer, c.Learns net t.store.session t.source.network answer ∧ ids = answer.ids
  /-- What comes at once is taken at once. -/
  atOnce : t.refreshes = true → (t.nodesAnswer S).delay = 0 →
    TakesNodes S t₀ t l.id (t.nodesAnswer S).reply (t.tick S l.id .names l.names)
  /-- What comes later is taken when it comes. -/
  later : t.refreshes = true → (t.nodesAnswer S).delay ≠ 0 →
    (t.tick S l.id .names l.names).work = t.work ∧
      (t.tick S l.id .names l.names).now = t.now ∧
      ∀ t', Pieces S (t.tick S l.id .names l.names) t' →
        Awaits S t₀ (t.tick S l.id .names l.names) l.id (t.now + (t.nodesAnswer S).delay)
          (t.nodesAnswer S).reply t'
  /-- A poller that does not refresh the nodes calls for names at once. -/
  plain : t.refreshes = false →
    NamesCall S t.work l.id false (t.tick S l.id .names l.names)
  /-- If the names are asked for over HTTP as well, no round is ever stuck. -/
  unbroken : S = Api.source net c → ∀ node namesNamespace, ¬ S.Breaks node namesNamespace

/-- Whatever a names tick is brought for the nodes, and whatever happens meanwhile, it works on the
right nodes. All ticks of timelines that drift are such ticks, by `Drift.pieces`. -/
theorem Pieces.names_ticked (overHttp : S.nodes = (Api.source net c).nodes) (fresh : t.IsFresh)
    {timing : Poller.Timing} {refreshes : Bool}
    (pieces : Pieces S (t.withPoller timing refreshes) u) {l : Poller.Loop} (isThere : l ∈ u.loops)
    (live : l.cancelled = false) {armed : Bool} (resting : l.names.stage = .resting armed)
    (due : l.names.due ≤ u.now) : NamesTick net c S (t.withPoller timing refreshes) u l := by
  have reaches := Pieces.reaches pieces
  have sound : Sound S u := pieces.sound (Attentive.fresh fresh timing refreshes).sound
  have isAsking : l ∈ (u.inquiring S).loops := loops_inquiring S u ▸ isThere
  refine ⟨?_, fun ids => ?_, fun refreshes atOnce => ?_, fun refreshes later => ?_,
    fun plain => ?_, ?_⟩
  · have found : u.loop? l.id = some l := sound.fit.loop?_of_mem isThere
    simp [stepSchedule, found, Poller.Loop.schedule, resting, live, due]
  · unfold nodesAnswer
    rw [overHttp]
    exact c.result_nodes net u.store.session u.source.network ids
  · rw [tick_of_atOnce _ _ refreshes atOnce]
    exact takesNodes reaches sound.inquiring (work_inquiring S u) (now_inquiring S u) isAsking _ _
  · have ticked := tick_of_later l.id l.names refreshes later
    have waits := refreshing_arm sound.inquiring.fit isAsking live (againAt l.names u.now)
      (Nat.le_add_right (u.inquiring S).now (u.nodesAnswer S).delay) (u.nodesAnswer S).reply
    rw [← ticked, now_inquiring] at waits
    have ticking := reaches.trans (tick_reaches S u l.id .names l.names)
    refine ⟨?_, ?_, fun t' after => after.awaits ticking waits⟩
    · rw [ticked]
      exact work_inquiring S u
    · rw [ticked]
      exact now_inquiring S u
  · have counted : Sound S (u.counted .names) := sound.of_work rfl (.refl _) rfl rfl
    obtain ⟨_, run⟩ := counted.run
    rw [tick_of_plain _ _ plain]
    exact namesCall_beginRound run counted.fit isThere _ false
  · rintro rfl
    exact Api.not_breaks net c

end

/-- The cluster lists two nodes, and the answer takes seven milliseconds: the first tick waits for
them. -/
theorem names_ticked_listing :
    let net : Http.Network Unit := fun _ _ => ⟨(), .response ⟨⟨200⟩, some (Text.Utf8.encode
      "\x7b\"nodes\":[\x7b\"node_id\":\"n2\"\x7d,\x7b\"node_id\":\"n1\"\x7d]\x7d")⟩,
      some (.ofMillis 7)⟩
    let c : Api.Client := ⟨⟨.ofSeconds 10, 1, .ofMillis 200, []⟩, "http://h", .ofSeconds 11⟩
    let S := Api.source net c
    let idle : Timeline (Api.Wire Unit) :=
      (start (.fresh ⟨some "token"⟩ .unknown "org" 64) ⟨(), []⟩).withPoller {} true
    let begun := idle.startPoller.2
    ∃ l ∈ begun.loops, l.cancelled = false ∧ l.names.stage = .resting false ∧
      l.names.due ≤ begun.now ∧ (begun.nodesAnswer S).reply.toOption = some ["n2", "n1"] ∧
      (begun.nodesAnswer S).delay = 7 ∧ NamesTick net c S idle begun l := by
  intro net c S idle begun
  let l : Poller.Loop := ⟨0, false, false, .start 1000 0, .start 30000 0⟩
  have fresh : (start (.fresh ⟨some "token"⟩ .unknown "org" 64) ⟨(), []⟩ :
      Timeline (Api.Wire Unit)).IsFresh := ⟨_, _, _, _, _, rfl⟩
  have drift : Drift S idle begun := .act .refl .startPoller
  have pieces := drift.pieces (.fresh fresh {} true)
  have isThere : l ∈ begun.loops := List.mem_singleton.mpr rfl
  refine ⟨l, isThere, rfl, rfl, Nat.le_refl 0, ?_, ?_,
    pieces.names_ticked rfl fresh isThere rfl rfl (Nat.le_refl 0)⟩
  · unfold begun idle S c net
    decide +kernel
  · unfold begun idle S c net
    decide +kernel

/-- Not every names tick that finds no names round outstanding asks the nodes that are known: asking a
node broke down in the first tick, and the second does not ask. -/
theorem not_always_asked :
    let c : Api.Client := ⟨⟨.ofSeconds 10, 1, .ofMillis 200, []⟩, "http://h", .ofSeconds 11⟩
    let S : Source (Api.Wire Unit) := { Api.source .unreachable c with
      names := fun wire _ _ _ _ => { state := wire, answer := ⟨.broke "boom", 0⟩ } }
    let idle : Timeline (Api.Wire Unit) := (start (.fresh .loggedOut (.ofList ["n1"]) "org" 64)
      ⟨(), []⟩).withPoller { namesEvery := 10 } true
    (idle.startPoller.2.advance S 10).stats = ⟨1, 0, 2, 2⟩ ∧
      (idle.startPoller.2.advance S 10).questions = [(0, .names "n1" "org")] ∧
      ¬ ∀ (u : Timeline (Api.Wire Unit)) (l : Poller.Loop), Pieces S idle u → l ∈ u.loops →
        l.cancelled = false → l.names.stage = .resting true → l.names.due ≤ u.now →
        (u.nodesAnswer S).delay = 0 → (∀ f ∈ u.fetches, f.kind ≠ .names) →
        ∀ nodes, (u.store.refresh (u.nodesAnswer S).reply).2.directory.nodes = some nodes →
          ∃ round, ⟨.names, round, .begun nodes⟩ ∈ (u.tick S l.id .names l.names).fetches := by
  intro c S idle
  refine ⟨?_, ?_, fun always => ?_⟩
  · unfold idle S c
    rfl
  · unfold idle S c
    rfl
  · -- The first tick is over, and the second is due.
    let settled := idle.startPoller.2.settle S
    let u := settled.moveTo 10
    let l : Poller.Loop := ⟨0, false, true, ⟨1000, 1000, .resting true⟩, ⟨10, 10, .resting true⟩⟩
    obtain ⟨rest, timers⟩ :
        settled.ready = [] ∧ settled.timers = [⟨10, .loop 0⟩, ⟨1000, .loop 0⟩] := by
      unfold settled idle S c
      exact ⟨rfl, rfl⟩
    obtain ⟨now, loops, fetches, atOnce, known, unasked⟩ : u.now = 10 ∧ u.loops = [l] ∧
        u.fetches = [] ∧ (u.nodesAnswer S).delay = 0 ∧
        (u.store.refresh (u.nodesAnswer S).reply).2.directory.nodes = some ["n1"] ∧
        (u.tick S l.id .names l.names).fetches = [] := by
      unfold u settled idle S c
      exact ⟨rfl, rfl, rfl, rfl, rfl, rfl⟩
    have fresh : (start (.fresh .loggedOut (.ofList ["n1"]) "org" 64) ⟨(), []⟩ :
        Timeline (Api.Wire Unit)).IsFresh := ⟨_, _, _, _, _, rfl⟩
    have settling : Drift S idle settled :=
      ((Course.refl.act .startPoller).lapse (Attentive.settle_lapse _)).drift
    have pieces : Pieces S idle u :=
      (settling.beat (.wait rest (by simp [timers]))).pieces (.fresh fresh { namesEvery := 10 } true)
    have isThere : l ∈ u.loops := loops ▸ List.mem_singleton_self l
    have due : l.names.due ≤ u.now := Nat.le_of_eq now.symm
    obtain ⟨round, asked⟩ := always u l pieces isThere rfl rfl due atOnce
      (fetches ▸ List.forall_mem_nil _) ["n1"] known
    rw [unasked] at asked
    cases asked

end MetricWatch.Timeline
