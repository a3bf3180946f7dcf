import MetricWatch.Proofs.Rounds.Phase
import Mathlib.Data.List.Nodup

/-!
# Orderly rounds

The rounds of both kinds stay in their phases along every run, whatever else happens, and the
record of the run says all there is to know of them. The main statement is `Run.orderly`.
-/

namespace MetricWatch

/-- The names that a question asks for metrics of, if it does. -/
def Question.metrics? : Question → Option (List String)
  | .metrics items => some items
  | .names .. => none

namespace Timeline

variable {σ : Type} {S : Source σ} {t t' : Timeline σ} {marks : List Mark} {w w' : Work} {m : Mark}

/-! ### Fetches of one kind -/

namespace Work

lemma fetchesOf_start (w : Work) (kind other : RoundKind) (items : List String) :
    (w.start kind items).fetchesOf other
      = if kind = other then w.fetchesOf other ++ [⟨kind, w.store.nextRound kind, .begun items⟩]
        else w.fetchesOf other := by
  by_cases same : kind = other <;> simp [start, fetchesOf, List.filter_append, same]

lemma fetchesOf_setStage (w : Work) (kind : RoundKind) (round : Nat) (stage : FetchStage)
    (other : RoundKind) : (w.setStage kind round stage).fetchesOf other
      = (w.fetchesOf other).map fun f =>
          if f.kind = kind ∧ f.round = round then { f with stage := stage } else f := by
  simp only [fetchesOf, setStage, List.filter_map]
  congr 2
  funext f
  simp only [Function.comp_apply]
  split <;> rfl

lemma fetchesOf_setStage_other {kind other : RoundKind} (h : kind ≠ other) (w : Work)
    (round : Nat) (stage : FetchStage) :
    (w.setStage kind round stage).fetchesOf other = w.fetchesOf other := by
  rw [fetchesOf_setStage]
  refine (List.map_congr_left fun f mem => ?_).trans (List.map_id _)
  have ofOther : f.kind = other := by simpa using (List.mem_filter.mp mem).2
  simp [ofOther, Ne.symm h]

lemma fetchesOf_finish (w : Work) (kind : RoundKind) (round now : Nat) (g : Gathered)
    (other : RoundKind) : (w.finish kind round now g).fetchesOf other
      = (w.fetchesOf other).filter fun f => ¬ (f.kind = kind ∧ f.round = round) := by
  simp only [fetchesOf, finish, List.filter_filter, Bool.and_comm]

lemma fetchesOf_finish_other {kind other : RoundKind} (h : kind ≠ other) (w : Work)
    (round now : Nat) (g : Gathered) :
    (w.finish kind round now g).fetchesOf other = w.fetchesOf other := by
  rw [fetchesOf_finish, List.filter_eq_self]
  intro f mem
  have ofOther : f.kind = other := by simpa using (List.mem_filter.mp mem).2
  simp [ofOther, Ne.symm h]

lemma mem_fetchesOf {f : Fetch} {w : Work} : f ∈ w.fetchesOf f.kind ↔ f ∈ w.fetches := by
  simp [fetchesOf]

/-- The only fetch of its kind at another stage. -/
lemma fetchesOf_setStage_self {w : Work} {f : Fetch} (only : w.fetchesOf f.kind = [f])
    (stage : FetchStage) :
    (w.setStage f.kind f.round stage).fetchesOf f.kind = [⟨f.kind, f.round, stage⟩] := by
  simp [fetchesOf_setStage, only]

/-- The only fetch of its kind is gone after its round. -/
lemma fetchesOf_finish_self {w : Work} {f : Fetch} (only : w.fetchesOf f.kind = [f]) (now : Nat)
    (g : Gathered) : (w.finish f.kind f.round now g).fetchesOf f.kind = [] := by
  simp [fetchesOf_finish, only]

@[simp] lemma fetchesOf_tell (w : Work) (who : Option Nat) (stage : CallerStage)
    (kind : RoundKind) : (w.tell who stage).fetchesOf kind = w.fetchesOf kind := by
  simp only [fetchesOf, fetches_tell]

end Work

/-! ### Every account is in a phase -/

/-- A move that is nothing to a kind leaves its account. -/
lemma account_cons {kind : RoundKind} (start : m.start? kind = none)
    (request : m.request? kind = none) (answer : m.answer? kind = none)
    (finish : m.end? kind = none) (occupant : w'.store.occupant kind = w.store.occupant kind)
    (fetches : w'.fetchesOf kind = w.fetchesOf kind) :
    account (m :: marks) w' kind = account marks w kind := by
  simp [account, starts, requests, answers, ends, start, request, answer, finish, occupant, fetches]

lemma Phase.change (h : ∀ kind, Phase kind (account marks w kind)) (change : Change w m w')
    (kind : RoundKind) : Phase kind (account (m :: marks) w' kind) := by
  have unchanged (same : account (m :: marks) w' kind = account marks w kind) :
      Phase kind (account (m :: marks) w' kind) := same ▸ h kind
  -- Every change concerns at most one kind and leaves the account of the other.
  cases change with
  | declined => exact unchanged (account_cons rfl rfl rfl rfl (by simp) (by simp))
  | joined => exact unchanged (account_cons rfl rfl rfl rfl (by simp) (by simp))
  | served | spawned | abandoned | aside =>
    exact unchanged (account_cons rfl rfl rfl rfl rfl rfl)
  | chore c => exact unchanged (account_cons rfl rfl rfl rfl (by simp) rfl)
  | @started who other items _ _ vacant =>
    by_cases same : other = kind
    · subst same
      rw [account, starts_started, Work.store_tell, Work.fetchesOf_tell, Work.fetchesOf_start,
        if_pos rfl]
      have occupied := Store.occupant_occupy vacant other
      rw [if_pos rfl] at occupied
      rw [show (w.start other items).store.occupant other = _ from occupied]
      exact (h other).start vacant _ items
    · refine unchanged (account_cons (by simp [Mark.start?, same]) rfl rfl rfl ?_ ?_)
      · simp [Work.start, Store.occupant_occupy vacant, same]
      · simp [Work.fetchesOf_start, same]
  | @asked f items g questions isThere begun ofKind posed delay =>
    by_cases same : f.kind = kind
    · subst same
      obtain ⟨next, only⟩ := (h f.kind).ask (Work.mem_fetchesOf.mpr isThere) begun ofKind
        (.held g delay) rfl
      rw [account, requests_asked, answers_asked,
        Work.fetchesOf_setStage_self (w := w.pose questions) only]
      exact next
    · refine unchanged (account_cons rfl (by simp [Mark.request?, same])
        (by simp [Mark.answer?, same]) rfl rfl ?_)
      exact Work.fetchesOf_setStage_other same (w.pose questions) _ _
  | @delayed f g isThere asked until_ =>
    by_cases same : f.kind = kind
    · subst same
      obtain ⟨next, only⟩ := (h f.kind).delay (Work.mem_fetchesOf.mpr isThere) asked
        (.waiting g until_) rfl
      rw [account, Work.fetchesOf_setStage_self only]
      exact next
    · exact unchanged (account_cons rfl rfl rfl rfl rfl (Work.fetchesOf_setStage_other same w _ _))
  | @ended f g isThere asked now =>
    have there := Work.mem_fetchesOf.mpr isThere
    obtain ⟨only, occupied, ofKind, -⟩ := (h f.kind).answered there asked
    by_cases same : f.kind = kind
    · subst same
      have freed : (w.finish f.kind f.round now g).store.occupant f.kind
          = if g.breaks then w.store.occupant f.kind else none := by
        have occupied : w.store.occupant f.kind = some f.round := occupied
        cases broke : g.breaks <;>
          simp [Work.finish, occupant_conclude, ofKind, occupied, broke]
      rw [account, ends_ended, freed, Work.fetchesOf_finish_self only]
      exact (h f.kind).finish there asked
    · refine unchanged (account_cons rfl rfl rfl (by simp [Mark.end?, same]) ?_ ?_)
      · simp [Work.finish, occupant_conclude, ofKind, same]
      · exact Work.fetchesOf_finish_other same w _ _ _

/-! ### Orderly rounds -/

/-- Rounds of every kind are in a phase, they are numbered from zero in the order in which they
start, what those get who wait for a round is what the mark of its end says, and metrics are asked
for only by list rounds. -/
structure Orderly (marks : List Mark) (w : Work) : Prop where
  phase : ∀ kind, Phase kind (account marks w kind)
  numbered : ∀ kind,
    (starts kind marks).map Prod.fst = (List.range (w.store.nextRound kind)).reverse
  result?_iff : ∀ kind round result, w.store.result? kind round = some result
    ↔ ∃ time g, .ended kind round time g result ∈ marks
  questions :
    w.questions.filterMap (fun q => q.2.metrics?) = (requests .list marks).map Prod.snd

namespace Orderly

lemma fresh (h : w.IsFresh) : Orderly [] w := by
  obtain ⟨session, directory, namesNamespace, capacity, rfl⟩ := h
  refine ⟨fun kind => ?_, fun kind => ?_, fun kind round result => ?_, rfl⟩
  · cases kind <;> exact .idle ⟨rfl, List.forall_mem_nil _⟩
  · cases kind <;> rfl
  · cases kind <;> simp [Store.fresh, Store.result?, Slot.outcome?, Slot.fresh]

lemma numbered_change (h : Orderly marks w) (change : Change w m w') (kind : RoundKind) :
    (starts kind (m :: marks)).map Prod.fst
      = (List.range (w'.store.nextRound kind)).reverse := by
  have before := h.numbered kind
  cases change with
  | @started who other items _ _ vacant =>
    rw [Work.store_tell, Work.store_start, Store.nextRound_occupy vacant]
    by_cases same : other = kind
    · subst same
      simp [List.range_succ, before]
    · simpa [starts, Mark.start?, same] using before
  | declined | joined =>
    rw [Work.store_tell]
    exact before
  | chore c =>
    rw [Store.nextRound_perform]
    exact before
  | ended =>
    rw [Work.store_finish, nextRound_conclude]
    exact before
  | served | spawned | abandoned | asked | delayed | aside => exact before

/-- A round has a greater number than all that started before it. -/
lemma decreasing (h : Orderly marks w) (kind : RoundKind) :
    ((starts kind marks).map Prod.fst).Pairwise (· > ·) := by
  rw [h.numbered kind]
  exact List.pairwise_reverse.mpr List.pairwise_lt_range

lemma ends_decreasing (h : Orderly marks w) (kind : RoundKind) :
    ((ends kind marks).map Prod.fst).Pairwise (· > ·) :=
  (h.decreasing kind).sublist (h.phase kind).ends_suffix.sublist

/-- A slot holds the last round that started, until this ends by anything but breaking off. -/
lemma occupant_iff (h : Orderly marks w) (kind : RoundKind) (round : Nat) :
    w.store.occupant kind = some round
      ↔ (starts kind marks).head?.map Prod.fst = some round ∧
        ∀ g, (round, g) ∈ ends kind marks → g.breaks = true :=
  (h.phase kind).occupant_iff (h.decreasing kind) round

/-- The rounds that started are those below the next. -/
lemma isStarted_iff (h : Orderly marks w) (kind : RoundKind) (round : Nat) :
    round ∈ (starts kind marks).map Prod.fst ↔ round < w.store.nextRound kind := by
  rw [h.numbered kind]
  simp

/-- Nobody knows what a round brings that has not started. -/
lemma result?_nextRound (h : Orderly marks w) (kind : RoundKind) :
    w.store.result? kind (w.store.nextRound kind) = none := by
  by_contra known
  obtain ⟨result, known⟩ := Option.ne_none_iff_exists'.mp known
  obtain ⟨time, g, isMark⟩ := (h.result?_iff kind _ result).mp known
  have ended := List.mem_map_of_mem (f := Prod.fst) (mem_ends.mpr ⟨time, result, isMark⟩)
  have started := (h.phase kind).ends_suffix.subset ended
  exact Nat.lt_irrefl _ ((h.isStarted_iff kind _).mp started)

/-- A round starts once. -/
lemma starts_unique (h : Orderly marks w) {kind : RoundKind} {round : Nat}
    {items items' : List String} (started : (round, items) ∈ starts kind marks)
    (started' : (round, items') ∈ starts kind marks) : items' = items := by
  have distinct : ((starts kind marks).map Prod.fst).Nodup :=
    (h.decreasing kind).imp fun above => Nat.ne_of_gt above
  exact congrArg Prod.snd (List.inj_on_of_nodup_map distinct started' started rfl)

/-- A fetch that has asked is the only one of its kind, its round is the one in the slot, and the
round has not ended before. -/
lemma answered (h : Orderly marks w) {f : Fetch} {g : Gathered} (isThere : f ∈ w.fetches)
    (asked : f.stage.gathered? = some g) :
    w.store.occupant f.kind = some f.round ∧ g.kind = f.kind ∧
      answers f.kind marks = (f.round, g) :: ends f.kind marks ∧
      f.round ∉ (ends f.kind marks).map Prod.fst := by
  obtain ⟨-, occupied, ofKind, answered, items, rest, started, whole⟩ :=
    (h.phase f.kind).answered (Work.mem_fetchesOf.mpr isThere) asked
  have decreasing := h.decreasing f.kind
  rw [show starts f.kind marks = _ from started] at decreasing
  exact ⟨occupied, ofKind, answered, whole.not_ended decreasing⟩

lemma result?_change (h : Orderly marks w) (change : Change w m w') (kind : RoundKind)
    (round : Nat) (result : CallResult) : w'.store.result? kind round = some result
      ↔ ∃ time g, .ended kind round time g result ∈ m :: marks := by
  have before := h.result?_iff kind round result
  cases change with
  | declined | joined | started | served | spawned | abandoned | asked | delayed | chore
    | aside => simpa using before
  | @ended f g isThere asked now =>
    obtain ⟨-, ofKind, -, notEnded⟩ := h.answered isThere asked
    rw [Work.store_finish, result?_conclude, ofKind]
    by_cases same : f.kind = kind ∧ f.round = round
    · obtain ⟨rfl, rfl⟩ := same
      have once (time : Nat) (g' : Gathered) : .ended f.kind f.round time g' result ∉ marks :=
        fun mem => notEnded (List.mem_map_of_mem (mem_ends.mpr ⟨time, result, mem⟩))
      simp [once, eq_comm]
    · rw [if_neg same, before]
      simp only [List.mem_cons, Mark.ended.injEq]
      refine exists_congr fun time => exists_congr fun g' => ⟨.inr, ?_⟩
      rintro (⟨rfl, rfl, -⟩ | mem)
      · exact absurd ⟨rfl, rfl⟩ same
      · exact mem

lemma questions_change (h : Orderly marks w) (change : Change w m w') :
    w'.questions.filterMap (fun q => q.2.metrics?)
      = (requests .list (m :: marks)).map Prod.snd := by
  have before := h.questions
  cases change with
  | @asked f items g questions isThere begun ofKind posed delay =>
    rw [Work.questions_setStage, Work.questions_pose, List.filterMap_append, before]
    generalize f.kind = kind at posed
    cases posed with
    | list time => simp [Question.metrics?]
    | names _ few each =>
      have noMetrics : questions.filterMap (fun q => q.2.metrics?) = [] := by
        refine List.filterMap_eq_nil_iff.mpr fun q mem => ?_
        obtain ⟨node, -, namesNamespace, isNames⟩ := each q mem
        rw [isNames, Question.metrics?]
      rw [noMetrics, List.nil_append]
      rfl
  | declined | joined | started =>
    rw [Work.questions_tell]
    exact before
  | served | spawned | abandoned | delayed | ended | chore | aside => exact before

lemma change (h : Orderly marks w) (change : Change w m w') : Orderly (m :: marks) w' :=
  ⟨Phase.change h.phase change, h.numbered_change change, h.result?_change change,
    h.questions_change change⟩

/-- What those get who wait for a round never changes. -/
lemma keeps (h : Orderly marks w) (change : Change w m w') {kind : RoundKind} {round : Nat}
    {result : CallResult} (ended : w.store.result? kind round = some result) :
    w'.store.result? kind round = some result := by
  obtain ⟨time, g, mem⟩ := (h.result?_iff kind round result).mp ended
  exact (h.result?_change change kind round result).mpr ⟨time, g, List.mem_cons_of_mem m mem⟩

end Orderly

/-- Rounds are orderly all along a run. -/
theorem Run.orderly (run : Run S marks t) : Orderly marks t.work :=
  run.induct (fun _ => Orderly.fresh) Orderly.change

/-! ### Back from the end of a round -/

/-- A round that ends with some answers has asked the questions that brought them. -/
lemma Run.asked_of_ended (run : Run S marks t) {kind : RoundKind} {round time : Nat} {g : Gathered}
    {result : CallResult} (move : Move S t (.ended kind round time g result) t') :
    ∃ items before asking asked, .asked kind round items g :: before <:+ marks ∧
      Run S before asking ∧ Move S asking (.asked kind round items g) asked := by
  obtain ⟨-, f, isThere, rfl, rfl, gathered, -, -⟩ := move.of_ended
  obtain ⟨-, -, isAnswer, -⟩ := run.orderly.answered isThere gathered
  have answered : (f.round, g) ∈ answers f.kind marks := by
    rw [isAnswer]
    exact List.mem_cons_self
  obtain ⟨items, isAsked⟩ := mem_answers.mp answered
  obtain ⟨before, between, asking, asked, rfl, before', move', -⟩ := run.of_mem isAsked
  exact ⟨items, before, asking, asked, List.suffix_append .., before', move'⟩

/-- A round that asks its questions asks for what it started with. -/
lemma Run.started_of_asked (run : Run S marks t) {kind : RoundKind} {round : Nat}
    {items : List String} {g : Gathered} (isAsked : .asked kind round items g ∈ marks) :
    ∃ who earlier t₀ t₁, .started who kind round items :: earlier <:+ marks ∧ Run S earlier t₀ ∧
      Move S t₀ (.started who kind round items) t₁ := by
  have requested : (round, items) ∈ requests kind marks :=
    List.mem_filterMap.mpr ⟨_, isAsked, by simp [Mark.request?]⟩
  have started := (run.orderly.phase kind).requests_suffix.subset requested
  obtain ⟨who, isMark⟩ := mem_starts.mp started
  obtain ⟨earlier, _, t₀, t₁, rfl, before, move, -⟩ := run.of_mem isMark
  exact ⟨who, earlier, t₀, t₁, List.suffix_append .., before, move⟩

end Timeline

end MetricWatch
