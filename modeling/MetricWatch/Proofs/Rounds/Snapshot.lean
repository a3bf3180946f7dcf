import MetricWatch.Proofs.Rounds.Coalescing

/-!
# The snapshot

What a store shows of the metrics is what its last list round that succeeded brought, whole and
unmixed, and its subscribers are told of these rounds one by one. The main statement is
`Run.mirrored`.
-/

namespace MetricWatch

open Timeline

/-! ### Updates -/

/-- What is shown and told at the end of a round with such answers, if anything is. -/
def Gathered.update? (round now : Nat) : Gathered → Option Update
  | .list (.ok answer) => some ⟨round, answer.flatten, now⟩
  | _ => none

/-- The update of the list round that a mark ends, if the round succeeded. -/
def Mark.update? : Mark → Option Update
  | .ended .list round time g _ => g.update? round time
  | _ => none

/-- The updates of a record, latest first. -/
def updates (marks : List Mark) : List Update := marks.filterMap Mark.update?

/-- The update of which an event tells. -/
def Event.update? : Event → Option Update
  | .metricsUpdated u => some u
  | .namesUpdated _ => none

/-- The updates of which subscribers were told, latest first. -/
def Store.told (s : Store) : List Update := s.channel.sent.filterMap Event.update?

lemma Mark.exists_of_update? {m : Mark} {u : Update} (h : m.update? = some u) :
    ∃ answer result, m = .ended .list u.round u.time (.list (.ok answer)) result ∧
      u.metrics = answer.flatten := by
  unfold update? at h
  split at h
  · unfold Gathered.update? at h
    split at h
    · cases h
      exact ⟨_, _, rfl, rfl⟩
    · cases h
  · cases h

lemma Mark.update?_ended {kind : RoundKind} {g : Gathered} (ofKind : g.kind = kind)
    (round time : Nat) (result : CallResult) :
    (Mark.ended kind round time g result).update? = g.update? round time := by
  subst ofKind
  cases g <;> rfl

/-- Updates come from different rounds that ended. -/
lemma updates_sublist (marks : List Mark) :
    ((updates marks).map Update.round).Sublist ((ends .list marks).map Prod.fst) := by
  apply sublist_ends
  intro m u isUpdate
  obtain ⟨answer, result, rfl, -⟩ := Mark.exists_of_update? isUpdate
  exact ⟨_, _, _, rfl⟩

namespace Timeline

variable {σ : Type} {S : Source σ} {t t' : Timeline σ} {marks later : List Mark} {w w' : Work}
  {m : Mark}

/-! ### What is shown and told -/

/-- What a store shows after a round: its update, or what it showed before. -/
lemma latest_conclude (s : Store) (round now : Nat) (g : Gathered) :
    (conclude s round now g).latest = (g.update? round now).or s.latest := by
  cases g with
  | list reply => cases reply <;> rfl
  | names replies => cases broke : breakdown? replies <;> simp only [conclude, broke] <;> rfl

/-- What a store tells at the end of a round: its update, if it has one. -/
lemma told_conclude (s : Store) (round now : Nat) (g : Gathered) :
    (conclude s round now g).told = (g.update? round now).toList ++ s.told := by
  cases g with
  | list reply => cases reply <;> rfl
  | names replies => cases broke : breakdown? replies <;> simp only [conclude, broke] <;> rfl

/-- Only the end of a list round that succeeded changes what is shown and told. -/
lemma published_change (orderly : Orderly marks w) (change : Change w m w') :
    w'.store.latest = m.update?.or w.store.latest ∧
      w'.store.told = m.update?.toList ++ w.store.told := by
  cases change with
  | @ended f g isThere asked now =>
    obtain ⟨-, ofKind, -⟩ := orderly.answered isThere asked
    rw [Mark.update?_ended ofKind]
    exact ⟨latest_conclude .., told_conclude ..⟩
  | started =>
    rw [Work.store_tell, Work.store_start, Store.latest_occupy, Store.told, Store.channel_occupy]
    exact ⟨rfl, rfl⟩
  | declined | joined =>
    rw [Work.store_tell]
    exact ⟨rfl, rfl⟩
  | chore c => exact ⟨Store.latest_perform .., congrArg (List.filterMap _) (Store.sent_perform ..)⟩
  | served | spawned | abandoned | asked | delayed | aside => exact ⟨rfl, rfl⟩

/-- What a store shows is the last update, and its subscribers were told of all. -/
theorem Run.published (run : Run S marks t) :
    t.store.latest = (updates marks).head? ∧ t.store.told = updates marks := by
  refine (run.induct (P := fun marks w => Orderly marks w ∧
    w.store.latest = (updates marks).head? ∧ w.store.told = updates marks) ?_ ?_).2
  · intro w fresh
    refine ⟨.fresh fresh, ?_⟩
    obtain ⟨session, directory, namesNamespace, capacity, rfl⟩ := fresh
    exact ⟨rfl, rfl⟩
  · rintro marks w m w' ⟨orderly, latest, told⟩ change
    obtain ⟨latest', told'⟩ := published_change orderly change
    refine ⟨orderly.change change, ?_⟩
    rw [latest', told', latest, told, updates, updates, List.filterMap_cons]
    cases m.update? <;> exact ⟨rfl, rfl⟩

/-! ### Where updates come from -/

/-- An update is what the source answered to the question of its round, flattened, at the time at
which the round ended, and it is what those get who wait for the round. -/
def IsTraced (S : Source σ) (marks : List Mark) (u : Update) : Prop :=
  ∃ (asking ending : Timeline σ) (before asked : List Mark) (items : List String)
    (answer : ClusterAnswer),
    Run S before asking ∧
      (S.metrics asking.source asking.store.session asking.now items).answer.reply = .ok answer ∧
      .asked .list u.round items (.list (.ok answer)) :: before <:+ asked ∧
      Run S asked ending ∧ u = ⟨u.round, answer.flatten, ending.now⟩ ∧
      .ended .list u.round u.time (.list (.ok answer)) (.listed (some (.ok u))) :: asked <:+ marks

lemma Run.traced (run : Run S marks t) {u : Update} (mem : u ∈ updates marks) :
    IsTraced S marks u := by
  obtain ⟨m, isMark, h⟩ := List.mem_filterMap.mp mem
  obtain ⟨answer, result, rfl, flat⟩ := Mark.exists_of_update? h
  obtain ⟨round, metrics, time⟩ := u
  dsimp only at flat isMark
  subst flat
  -- From the end of the round back to its question.
  obtain ⟨asked, later, ending, _, rfl, ended, move, -⟩ := run.of_mem isMark
  obtain ⟨items, before, asking, _, isAsked, run', move'⟩ := ended.asked_of_ended move
  obtain ⟨rfl, _, -, -, -, -, rfl, -⟩ := move.of_ended
  have reply := Gathered.list.inj move'.of_asked.1
  exact ⟨asking, ending, before, asked, items, answer, run', reply.symm, isAsked, ended, rfl,
    List.suffix_append ..⟩

/-- Later updates come from later rounds. -/
lemma Run.updates_decreasing (run : Run S marks t) :
    ((updates marks).map Update.round).Pairwise (· > ·) :=
  (run.orderly.ends_decreasing .list).sublist (updates_sublist marks)

lemma Run.result?_of_update (run : Run S marks t) {u : Update} (mem : u ∈ updates marks) :
    t.result? .list u.round = some (.listed (some (.ok u))) := by
  obtain ⟨_, _, _, _, _, _, -, -, -, -, -, ended⟩ := run.traced mem
  exact (run.orderly.result?_iff .list u.round _).mpr ⟨_, _, ended.subset List.mem_cons_self⟩

/-! ### The main statement -/

/-- How a store and its subscribers mirror the list rounds that succeeded. -/
structure Mirrored (S : Source σ) (marks : List Mark) (t : Timeline σ) : Prop where
  /-- The metrics and their time are those of the last update; before any there are none. -/
  shown : t.store.metrics = (((updates marks).head?).map Update.metrics).getD [] ∧
    t.store.updatedAt = (updates marks).head?.map Update.time
  /-- Subscribers are told of every update, once and in order. -/
  told : t.store.told = updates marks
  /-- No two updates come from one round, and later ones come from later rounds. -/
  upwards : ((updates marks).map Update.round).Pairwise (· > ·)
  /-- Every update is what the source answered to the question of its round. -/
  traced : ∀ u ∈ updates marks, IsTraced S marks u
  /-- A list round that succeeds replaces the metrics, tells of what it shows, and gives the same
  to all who wait for it. -/
  replaced : ∀ {round time answer result t'},
    Move S t (.ended .list round time (.list (.ok answer)) result) t' →
      ∃ u : Update, u = ⟨round, answer.flatten, time⟩ ∧
        t'.store.metrics = u.metrics ∧ t'.store.updatedAt = some u.time ∧
        t'.store.channel.sent = .metricsUpdated u :: t.store.channel.sent ∧
        ∀ {later t''}, Path S t' later t'' →
          t''.result? .list round = some (.listed (some (.ok u)))
  /-- Nothing else changes what is shown and told. -/
  kept : ∀ {m t'}, Move S t m t' →
    (∀ round time answer result, m ≠ .ended .list round time (.list (.ok answer)) result) →
      t'.store.metrics = t.store.metrics ∧ t'.store.updatedAt = t.store.updatedAt ∧
        t'.store.told = t.store.told
  /-- Whoever has the result of a round that succeeded has its update. -/
  awaited : ∀ u ∈ updates marks, ∀ c ∈ t.callers,
    (.list, u.round) ∈ admissions (some c.id) marks →
      ∀ {result}, c.stage = .finished result → result = .listed (some (.ok u))

/-- The list rounds that succeeded are mirrored all along a run. -/
theorem Run.mirrored (run : Run S marks t) : Mirrored S marks t where
  shown := by
    rw [Store.metrics, Store.updatedAt, run.published.1]
    cases (updates marks).head? <;> exact ⟨rfl, rfl⟩
  told := run.published.2
  upwards := run.updates_decreasing
  traced _ mem := run.traced mem
  replaced {round time answer result t'} move := by
    obtain ⟨rfl, f, isThere, -, -, -, rfl, work⟩ := move.of_ended
    have store : t'.store = conclude t.store round t.now (.list (.ok answer)) :=
      congrArg Work.store work
    refine ⟨⟨round, answer.flatten, t.now⟩, rfl, ?_, ?_, ?_, fun {later t''} path => ?_⟩
    · rw [store]
      rfl
    · rw [store]
      rfl
    · rw [store]
      rfl
    · have longer := (run.tail move).trans path
      exact (longer.orderly.result?_iff .list round _).mpr
        ⟨_, _, List.mem_append_right later List.mem_cons_self⟩
  kept {m t'} move other := by
    have quiet : m.update? = none := by
      cases h : m.update? with
      | none => rfl
      | some u =>
        obtain ⟨answer, result, ended, -⟩ := Mark.exists_of_update? h
        exact absurd ended (other _ _ answer result)
    obtain ⟨latest, told⟩ := published_change run.orderly move.change
    rw [quiet] at latest told
    have same : t'.store.latest = t.store.latest := latest
    rw [Store.metrics, Store.updatedAt, same]
    exact ⟨rfl, rfl, told⟩
  awaited u mem c isThere admitted result finished := by
    have ended := run.result?_of_update mem
    have attendance := run.attended.attendance c isThere
    generalize admissions (some c.id) marks = rounds at admitted attendance
    cases attendance with
    | begun | declined => cases admitted
    | waiting stage | abandoned stage =>
      rw [finished] at stage
      cases stage
    | served stage ended' =>
      rw [finished] at stage
      obtain ⟨ofKind, rfl⟩ := Prod.mk.inj (List.mem_singleton.mp admitted)
      rw [← ofKind, show t.work.store.result? .list u.round = _ from ended] at ended'
      exact (CallerStage.finished.inj stage).trans (Option.some.inj ended').symm

theorem mirrored_shared :
    let reply := Reply.ok (Script.plainAnswer ["m"])
    ∃ t, Run Script.source (sharedMarks reply) t ∧
      Mirrored Script.source (sharedMarks reply) t ∧
      t.store.metrics = [("node-1", [("m", ⟨"m", "m", .counter 0⟩)])] ∧
      t.store.updatedAt = some 0 ∧ t.store.told.map Update.metrics = [t.store.metrics] := by
  intro reply
  obtain ⟨t, run⟩ := shared_run reply
  have mirrored := run.mirrored
  have metrics := mirrored.shown.1
  exact ⟨t, run, mirrored, metrics, mirrored.shown.2, by rw [mirrored.told, metrics]; rfl⟩

end Timeline

end MetricWatch
