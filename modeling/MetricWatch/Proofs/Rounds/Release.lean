import MetricWatch.Proofs.Rounds.Coalescing

/-!
# Release

A round that succeeds or fails leaves its slot when it ends, and the next call that is admitted
starts another round. A round that breaks off never leaves: nothing is fetched any more, and all
who call later meet its error. The main statement is `Run.released`.
-/

namespace MetricWatch

open Timeline

/-- What those get who wait for a round that failed or broke off. -/
def CallResult.failed : RoundKind → Error → CallResult
  | .list, e => .listed (some (.error e))
  | .names, e => .named (some (.error e))

namespace Timeline

variable {σ : Type} {S : Source σ} {t t' : Timeline σ} {marks later : List Mark}

lemma ending_of_breaks {g : Gathered} (broke : g.breaks = true) (store : Store)
    (round now : Nat) :
    ∃ text, ending store round now g = .failed g.kind (Slot.breakdown round text) := by
  cases g with
  | list reply =>
    cases reply with
    | broke text => exact ⟨text, rfl⟩
    | ok | failed => cases broke
  | names replies =>
    obtain ⟨text, found⟩ := Option.isSome_iff_exists.mp broke
    exact ⟨text, by simp [ending, found, CallResult.failed, Gathered.kind]⟩

/-- The mark of an end says what those got who waited for the round. -/
lemma Run.of_ended (run : Run S marks t) {kind : RoundKind} {round time : Nat} {g : Gathered}
    {result : CallResult} (mem : .ended kind round time g result ∈ marks) :
    g.kind = kind ∧ ∃ store, result = ending store round time g := by
  obtain ⟨earlier, _, t₁, _, -, before, move, -⟩ := run.of_mem mem
  obtain ⟨-, f, isThere, rfl, rfl, asked, rfl, -⟩ := move.of_ended
  obtain ⟨-, ofKind, -⟩ := before.orderly.answered isThere asked
  exact ⟨ofKind, _, rfl⟩

/-- A round in the slot is fetched, or its asking broke off and its error is what all get who join
it. -/
lemma Run.fetched_or_broken (run : Run S marks t) {kind : RoundKind} {round : Nat}
    (occupied : t.store.occupant kind = some round) :
    (∃ f ∈ t.fetches, f.kind = kind ∧ f.round = round) ∨
      t.work.fetchesOf kind = [] ∧
        (∃ (u : Timeline σ) (items : List String), (ask S u kind items).1.breaks = true) ∧
        ∃ text, t.result? kind round = some (.failed kind (Slot.breakdown round text)) := by
  rcases (run.orderly.phase kind).fetched_or_broken occupied with
    ⟨f, mem, own⟩ | ⟨nothing, g, ended, broke⟩
  · obtain ⟨mem, ofKind⟩ := List.mem_filter.mp mem
    exact .inl ⟨f, mem, by simpa using ofKind, own⟩
  · obtain ⟨time, result, isMark⟩ := mem_ends.mp ended
    obtain ⟨ofKind, store, rfl⟩ := run.of_ended isMark
    obtain ⟨text, failed⟩ := ending_of_breaks broke store round time
    rw [failed, ofKind] at isMark
    obtain ⟨_, _, _, _, rfl, before, move, -⟩ := run.of_mem isMark
    obtain ⟨items, _, asking, _, -, -, asks⟩ := before.asked_of_ended move
    exact .inr ⟨nothing, ⟨asking, items, asks.of_asked.1 ▸ broke⟩, text,
      (run.orderly.result?_iff kind round _).mpr ⟨time, g, isMark⟩⟩

/-- After a round broke off no other round of its kind starts or asks its questions. -/
lemma Run.quiet_after_break (run : Run S marks t) (path : Path S t later t') {kind : RoundKind}
    {round : Nat} {g : Gathered} (ended : (round, g) ∈ ends kind marks) (broke : g.breaks = true) :
    starts kind later = [] ∧ requests kind later = [] := by
  have longer := run.trans path
  have ended' : (round, g) ∈ ends kind (later ++ marks) := by
    rw [ends_append]
    exact List.mem_append_right _ ended
  obtain ⟨-, requested, last⟩ : _ ∧ requests kind marks = starts kind marks ∧
    (starts kind marks).head?.map Prod.fst = some round :=
      (run.orderly.phase kind).stuck_of_broken ended broke
  obtain ⟨-, requested', last'⟩ : _ ∧ requests kind (later ++ marks) = starts kind (later ++ marks) ∧
    (starts kind (later ++ marks)).head?.map Prod.fst = some round :=
      (longer.orderly.phase kind).stuck_of_broken ended' broke
  have noStart : starts kind later = [] := by
    cases more : starts kind later with
    | nil => rfl
    | cons x rest =>
      -- The first to start later would have the number of the round that is stuck.
      obtain ⟨y, isHead, own⟩ := Option.map_eq_some_iff.mp last
      have decreasing := longer.orderly.decreasing kind
      rw [starts_append, more, List.cons_append] at last' decreasing
      rw [List.map_cons, List.pairwise_cons] at decreasing
      have isLast : x.1 = round := Option.some.inj last'
      have above := decreasing.1 y.1 (List.mem_map_of_mem
        (List.mem_append_right rest (List.mem_of_mem_head? isHead)))
      omega
  refine ⟨noStart, ?_⟩
  rw [requests_append, starts_append, noStart, List.nil_append, ← requested] at requested'
  simpa using requested'

/-- How rounds leave their slot, or do not. -/
structure Released (S : Source σ) (marks : List Mark) (t : Timeline σ) : Prop where
  /-- A slot holds the round that started last, until this ends by anything but breaking off. -/
  occupied : ∀ kind round, t.store.occupant kind = some round
    ↔ (starts kind marks).head?.map Prod.fst = some round ∧
      ∀ g, (round, g) ∈ ends kind marks → g.breaks = true
  /-- A list round is outstanding while one is in the slot. -/
  isListing : t.store.isListing = (t.store.occupant .list).isSome
  /-- When the last round of a kind ended without breaking off, the slot is free, and the next
  call that is admitted starts a round. -/
  freed : ∀ {kind round g}, (starts kind marks).head?.map Prod.fst = some round →
    (round, g) ∈ ends kind marks → g.breaks = false →
      t.store.occupant kind = none ∧
        ∀ items, t.store.items? kind = some items →
          (t.store.call kind).1 = some (.started (t.store.nextRound kind), items)
  /-- A call meets no round that has ended, unless the round broke off. -/
  current : ∀ {kind round}, (t.call kind).1 = some round →
    ∀ g, (round, g) ∈ ends kind marks → g.breaks = true
  /-- A round that broke off stays in its slot for ever: no other round of its kind starts or asks,
  and every call that is admitted meets its error. -/
  stuck : ∀ {kind round g}, (round, g) ∈ ends kind marks → g.breaks = true →
    ∃ text, ∀ {later t'}, Path S t later t' →
      t'.store.occupant kind = some round ∧ starts kind later = [] ∧ requests kind later = [] ∧
        t'.result? kind round = some (.failed kind (Slot.breakdown round text)) ∧
          ∀ items, t'.store.items? kind = some items →
            (t'.store.call kind).1 = some (.joined round, items)

/-- Rounds are released all along a run, unless they break off. -/
theorem Run.released (run : Run S marks t) : Released S marks t where
  occupied := run.orderly.occupant_iff
  isListing := rfl
  freed {kind round g} last ended unbroken := by
    have vacant : t.store.occupant kind = none := by
      cases occupied : t.store.occupant kind with
      | none => rfl
      | some other =>
        have holds := (run.orderly.occupant_iff kind other).mp occupied
        obtain rfl : other = round := Option.some.inj (holds.1.symm.trans last)
        rw [holds.2 g ended] at unbroken
        cases unbroken
    exact ⟨vacant, fun items admitted => Store.call_of_vacant vacant admitted⟩
  current {kind round} met g ended := by
    have called := t.work_call kind
    rw [met] at called
    generalize (t.store.call kind).1 = admission, (t.call kind).2.work = w at called
    cases called with
    | joined _ occupied =>
      exact ((run.orderly.occupant_iff kind round).mp occupied).2 g ended
    | started =>
      have started := (run.orderly.phase kind).ends_suffix.subset
        (List.mem_map_of_mem (f := Prod.fst) ended)
      exact absurd ((run.orderly.isStarted_iff kind _).mp started) (Nat.lt_irrefl _)
  stuck {kind round g} ended broke := by
    obtain ⟨time, result, mem⟩ := mem_ends.mp ended
    obtain ⟨ofKind, store, rfl⟩ := run.of_ended mem
    obtain ⟨text, failed⟩ := ending_of_breaks broke store round time
    rw [failed, ofKind] at mem
    refine ⟨text, fun {later t'} path => ?_⟩
    have longer := run.trans path
    have ended' : (round, g) ∈ ends kind (later ++ marks) := by
      rw [ends_append]
      exact List.mem_append_right _ ended
    obtain ⟨occupied, -, -⟩ := (longer.orderly.phase kind).stuck_of_broken ended' broke
    obtain ⟨noStart, noRequest⟩ := run.quiet_after_break path ended broke
    exact ⟨occupied, noStart, noRequest,
      (longer.orderly.result?_iff kind round _).mpr ⟨time, g, List.mem_append_right later mem⟩,
      fun items admitted => Store.call_of_occupied occupied admitted⟩

theorem released_shared :
    ∃ t, Run Script.source (sharedMarks (.broke "boom")) t ∧
      Released Script.source (sharedMarks (.broke "boom")) t := by
  obtain ⟨t, run⟩ := shared_run (.broke "boom")
  exact ⟨t, run, run.released⟩

/-- Not every round that ended has left its slot. -/
theorem not_always_released :
    ¬ ∀ marks (t : Timeline Script), Run Script.source marks t →
      ∀ kind round, t.store.occupant kind = some round
        ↔ (starts kind marks).head?.map Prod.fst = some round ∧
          round ∉ (ends kind marks).map Prod.fst := by
  intro released
  obtain ⟨t, run⟩ := shared_run (.broke "boom")
  have occupied : t.store.occupant .list = some 0 := by
    refine (run.orderly.occupant_iff .list 0).mpr ⟨rfl, fun g ended => ?_⟩
    cases List.mem_singleton.mp ended
    rfl
  exact ((released _ t run .list 0).mp occupied).2 (List.mem_singleton_self 0)

end Timeline

end MetricWatch
