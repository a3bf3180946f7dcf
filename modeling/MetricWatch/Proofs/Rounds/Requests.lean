import MetricWatch.Proofs.Registrations
import MetricWatch.Proofs.Rounds.Snapshot

/-!
# Requests

A list round asks for what was registered at the one step that started it, whatever happens to the
registrations afterwards, and it starts only when all before it have ended and been shown. The main
statement is `Run.requested`.
-/

namespace MetricWatch

namespace Timeline

variable {σ : Type} {S : Source σ} {t t' : Timeline σ} {marks later : List Mark}

/-! ### Starting a list round -/

lemma items?_list {s : Store} {items : List String} (h : s.items? .list = some items) :
    s.session.isLoggedIn = true ∧ items = s.registrations.toFetch := by
  simp only [Store.items?] at h
  split at h
  · next loggedIn => exact ⟨loggedIn, (Option.some.inj h).symm⟩
  · cases h

/-- While a slot is free all rounds that end belong to later calls. -/
lemma Run.nextRound_le_of_ended (run : Run S marks t) {kind : RoundKind}
    (vacant : t.store.occupant kind = none) (path : Path S t later t') {round : Nat}
    (ended : round ∈ (ends kind later).map Prod.fst) : t.store.nextRound kind ≤ round := by
  apply Nat.le_of_not_lt
  intro earlier
  -- An earlier round has ended already, and no round ends twice.
  have endedBefore : round ∈ (ends kind marks).map Prod.fst := by
    rw [show (ends kind marks).map Prod.fst = _ from (run.orderly.phase kind).ends_of_vacant vacant]
    exact (run.orderly.isStarted_iff kind round).mpr earlier
  have decreasing := (run.trans path).orderly.ends_decreasing kind
  rw [ends_append, List.map_append, List.pairwise_append] at decreasing
  exact Nat.lt_irrefl _ (decreasing.2.2 _ ended _ endedBefore)

/-! ### Calls without a session -/

lemma call_of_loggedOut (loggedOut : t.store.session.isLoggedIn = false) :
    t.call .list = (none, t) := by
  have call : t.store.call .list = (none, t.store) := by
    simp [Store.call, Store.callList, loggedOut]
  simp only [Timeline.call, call]

lemma callTimes_of_loggedOut (loggedOut : t.store.session.isLoggedIn = false) (n : Nat) :
    callTimes .list n t = (List.replicate n none, t) := by
  induction n with
  | zero => rfl
  | succ n ih => simp only [callTimes, call_of_loggedOut loggedOut, ih, List.replicate_succ]

/-- Those who wait in front without a session get nothing at once. -/
lemma callInFront_of_loggedOut (S : Source σ) (loggedOut : t.store.session.isLoggedIn = false)
    (n : Nat) : (t.callInFront S .list n).1 = some (List.replicate n (.listed none)) := by
  have isSettled (after : Timeline σ) :
      (List.replicate n none).all (after.isOver .list) = true := by simp [isOver]
  have waited : (t.waitUntil S (fun after => (List.replicate n none).all (after.isOver .list))
      patience).1 = true := by
    rw [waitUntil, waitWithin]
    simp only [isSettled, if_true]
  simp only [callInFront, callTimes_of_loggedOut loggedOut, waited, if_true, List.map_replicate]
  rfl

lemma stepCaller_of_loggedOut (run : Run S marks t) (loggedOut : t.store.session.isLoggedIn = false)
    {c : Caller} (isThere : c ∈ t.callers) (ofList : c.kind = .list) (begun : c.stage = .begun) :
    t.stepCaller c.id = t.setCaller c.id (.finished (.listed none)) := by
  have found : t.callers.find? (fun c' => c'.id = c.id) = some c :=
    run.attended.find?_caller isThere
  simp only [stepCaller, found, begun, ofList, call_of_loggedOut loggedOut]
  rfl

/-! ### The main statement -/

/-- What list rounds ask for, and when they start. -/
structure Requested (S : Source σ) (marks : List Mark) (t : Timeline σ) : Prop where
  /-- What a round asks for is what was registered at the step that started it, -/
  pinned : ∀ {round items}, (round, items) ∈ requests .list marks →
    ∃ who earlier t₀ t₁, .started who .list round items :: earlier <:+ marks ∧
      Run S earlier t₀ ∧ Move S t₀ (.started who .list round items) t₁ ∧
      t₀.store.session.isLoggedIn = true ∧ items = t₀.store.registrations.toFetch
  /-- of which there is only one, -/
  once : ((starts .list marks).map Prod.fst).Pairwise (· > ·)
  /-- and for this the source is asked. -/
  posed : t.questions.filterMap (fun q => q.2.metrics?) = (requests .list marks).map Prod.snd
  /-- Nothing that happens after a round started changes what it asks for. -/
  fixed : ∀ {who round items t' later t''}, Move S t (.started who .list round items) t' →
    Path S t' later t'' → ∀ items', (round, items') ∈ requests .list later → items' = items
  /-- Nothing that is registered is missed. -/
  complete : ∀ {who round items t'}, Move S t (.started who .list round items) t' →
    ∀ name, ((∃ nodeId, 0 < t.store.registrations.count nodeId name) ∨
      0 < t.store.registrations.globalCount name) → name ∈ items
  /-- Without a session no round starts, whether or not one is outstanding. -/
  loggedOut : t.store.session.isLoggedIn = false →
    t.call .list = (none, t) ∧
      (∀ n, (t.callInFront S .list n).1 = some (List.replicate n (.listed none))) ∧
      ∀ c ∈ t.callers, c.kind = .list → c.stage = .begun →
        t.stepCaller c.id = t.setCaller c.id (.finished (.listed none))
  /-- When a round starts, all before it have ended, what they brought is shown and told, and
  nothing that is shown afterwards comes from them. -/
  inOrder : ∀ {who round items t'}, Move S t (.started who .list round items) t' →
    (∀ earlier, earlier < round → earlier ∈ (ends .list marks).map Prod.fst) ∧
      t.store.latest = (updates marks).head? ∧ t.store.told = updates marks ∧
      ∀ {later t''}, Path S t' later t'' → ∀ u ∈ updates later, round ≤ u.round
  /-- What is shown never goes back to an earlier round. -/
  forward : ∀ {u later t'}, t.store.latest = some u → Path S t later t' →
    ∃ v, t'.store.latest = some v ∧ u.round ≤ v.round

/-- List rounds ask for what is registered when they start, all along a run. -/
theorem Run.requested (run : Run S marks t) : Requested S marks t where
  pinned {round items} mem := by
    have started := (run.orderly.phase .list).requests_suffix.subset mem
    obtain ⟨who, isMark⟩ := mem_starts.mp started
    obtain ⟨earlier, _, t₀, t₁, rfl, before, move, -⟩ := run.of_mem isMark
    obtain ⟨loggedIn, isRegistered⟩ := items?_list move.of_started.1
    exact ⟨who, earlier, t₀, t₁, List.suffix_append .., before, move, loggedIn, isRegistered⟩
  once := run.orderly.decreasing .list
  posed := run.orderly.questions
  fixed {who round items t' later t''} move path items' mem := by
    have longer := ((run.tail move).trans path).orderly
    have started : (round, items) ∈ starts .list (later ++ .started who .list round items :: marks) :=
      mem_starts.mpr ⟨who, List.mem_append_right later List.mem_cons_self⟩
    have asked : (round, items') ∈ requests .list (later ++ .started who .list round items :: marks) := by
      rw [requests_append]
      exact List.mem_append_left _ mem
    exact longer.starts_unique started ((longer.phase .list).requests_suffix.subset asked)
  complete {who round items t'} move name wanted := by
    obtain ⟨-, rfl⟩ := items?_list move.of_started.1
    rcases wanted with ⟨nodeId, onNode⟩ | anywhere
    · exact Registrations.mem_toFetch_of_count onNode
    · exact Registrations.mem_toFetch_of_globalCount anywhere
  loggedOut out := ⟨call_of_loggedOut out, callInFront_of_loggedOut S out,
    fun _ isThere => stepCaller_of_loggedOut run out isThere⟩
  inOrder {who round items t'} move := by
    obtain ⟨-, vacant, rfl, -⟩ := move.of_started
    refine ⟨fun earlier isEarlier => ?_, run.published.1, run.published.2, ?_⟩
    · rw [show (ends .list marks).map Prod.fst = _ from
        (run.orderly.phase .list).ends_of_vacant vacant]
      exact (run.orderly.isStarted_iff .list earlier).mpr isEarlier
    · intro later t'' path u mem
      have ended := (updates_sublist later).subset (List.mem_map_of_mem mem)
      refine run.nextRound_le_of_ended vacant ((Path.single move).trans path) ?_
      rw [ends_append, List.map_append]
      exact List.mem_append_left _ ended
  forward {u later t'} shown path := by
    have longer := run.trans path
    have all : updates (later ++ marks) = updates later ++ updates marks := List.filterMap_append
    have shown' := longer.published.1
    have decreasing := longer.updates_decreasing
    rw [run.published.1] at shown
    rw [all] at shown' decreasing
    cases more : updates later with
    | nil =>
      rw [more, List.nil_append, shown] at shown'
      exact ⟨u, shown', Nat.le_refl _⟩
    | cons v rest =>
      rw [more, List.cons_append] at shown' decreasing
      rw [List.map_cons, List.pairwise_cons] at decreasing
      have isUpdate := List.mem_append_right rest (List.mem_of_mem_head? shown)
      exact ⟨v, shown', Nat.le_of_lt (decreasing.1 _ (List.mem_map_of_mem isUpdate))⟩

theorem requested_shared :
    ∃ t, Run Script.source (sharedMarks (.ok (Script.plainAnswer ["m"]))) t ∧
      Requested Script.source (sharedMarks (.ok (Script.plainAnswer ["m"]))) t := by
  obtain ⟨t, run⟩ := shared_run (.ok (Script.plainAnswer ["m"]))
  exact ⟨t, run, run.requested⟩

end Timeline

end MetricWatch
