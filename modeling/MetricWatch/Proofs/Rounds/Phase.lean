import MetricWatch.Proofs.Rounds.Record

/-!
# Phases

The rounds of one kind are always in one of four phases: the slot is free and every round has
ended; a round has begun; it has asked its questions; or a round broke off and is stuck in the slot.
In each phase the slot, the fetches and the record determine each other up to the list of rounds,
and every move takes one phase to another.
-/

namespace MetricWatch

open Timeline

/-- What the slot, the fetches and the record say of the rounds of one kind. -/
structure Account where
  occupant : Option Nat
  fetches : List Fetch
  starts : List (Nat × List String)
  requests : List (Nat × List String)
  answers : List (Nat × Gathered)
  ends : List (Nat × Gathered)

/-- The account of the rounds of one kind. -/
def account (marks : List Mark) (w : Work) (kind : RoundKind) : Account where
  occupant := w.store.occupant kind
  fetches := w.fetchesOf kind
  starts := starts kind marks
  requests := requests kind marks
  answers := answers kind marks
  ends := ends kind marks

/-! ### The phases of an account -/

/-- Rounds that all ended, none of them by breaking off. -/
structure Whole (starts : List (Nat × List String)) (ends : List (Nat × Gathered)) : Prop where
  rounds : ends.map Prod.fst = starts.map Prod.fst
  unbroken : ∀ x ∈ ends, x.2.breaks = false

namespace Whole

variable {s : List (Nat × List String)} {e : List (Nat × Gathered)}

lemma not_mem_of_breaks (whole : Whole s e) {round : Nat} {g : Gathered}
    (broke : g.breaks = true) : (round, g) ∉ e := by
  intro mem
  have unbroken := whole.unbroken _ mem
  rw [broke] at unbroken
  cases unbroken

/-- A round that starts after all these is none of them. -/
lemma not_ended (whole : Whole s e) {round : Nat} {items : List String}
    (decreasing : (((round, items) :: s).map Prod.fst).Pairwise (· > ·)) :
    round ∉ e.map Prod.fst := by
  intro mem
  rw [List.map_cons, List.pairwise_cons, ← whole.rounds] at decreasing
  exact Nat.lt_irrefl _ (decreasing.1 _ mem)

end Whole

/-- The phases of the rounds of one kind. -/
inductive Phase (kind : RoundKind) : Account → Prop
  /-- Every round has ended, none by breaking off, and the slot is free. -/
  | idle {s : List (Nat × List String)} {e : List (Nat × Gathered)} (whole : Whole s e) :
      Phase kind ⟨none, [], s, s, e, e⟩
  /-- A round is in the slot and has asked nothing yet. -/
  | begun {s : List (Nat × List String)} {e : List (Nat × Gathered)} {round : Nat}
      {items : List String} (whole : Whole s e) :
      Phase kind ⟨some round, [⟨kind, round, .begun items⟩], (round, items) :: s, s, e, e⟩
  /-- The round in the slot has asked its questions. -/
  | asked {s : List (Nat × List String)} {e : List (Nat × Gathered)} {round : Nat}
      {items : List String} {stage : FetchStage} {g : Gathered}
      (gathered : stage.gathered? = some g) (ofKind : g.kind = kind) (whole : Whole s e) :
      Phase kind ⟨some round, [⟨kind, round, stage⟩], (round, items) :: s, (round, items) :: s,
        (round, g) :: e, e⟩
  /-- The last round broke off and is stuck in the slot. -/
  | stuck {s : List (Nat × List String)} {e : List (Nat × Gathered)} {round : Nat}
      {items : List String} {g : Gathered} (ofKind : g.kind = kind) (broke : g.breaks = true)
      (whole : Whole s e) :
      Phase kind ⟨some round, [], (round, items) :: s, (round, items) :: s, (round, g) :: e,
        (round, g) :: e⟩

namespace Phase

variable {kind : RoundKind} {a : Account}

lemma start (h : Phase kind a) (vacant : a.occupant = none) (round : Nat)
    (items : List String) :
    Phase kind { a with
      occupant := some round
      fetches := a.fetches ++ [⟨kind, round, .begun items⟩]
      starts := (round, items) :: a.starts } := by
  cases h with
  | idle whole => exact .begun whole
  | begun | asked | stuck => cases vacant

/-- A fetch that has just begun is the only one, and its round is the last that started. -/
lemma ask (h : Phase kind a) {f : Fetch} {items : List String} (isThere : f ∈ a.fetches)
    (begun : f.stage = .begun items) {g : Gathered} (ofKind : g.kind = kind)
    (stage : FetchStage) (gathered : stage.gathered? = some g) :
    Phase kind { a with
      fetches := [⟨kind, f.round, stage⟩]
      requests := (f.round, items) :: a.requests
      answers := (f.round, g) :: a.answers } ∧ a.fetches = [f] := by
  cases h with
  | idle | stuck => cases isThere
  | begun whole =>
    obtain rfl := List.mem_singleton.mp isThere
    obtain rfl := FetchStage.begun.inj begun
    exact ⟨.asked gathered ofKind whole, rfl⟩
  | asked asked =>
    obtain rfl := List.mem_singleton.mp isThere
    subst begun
    cases asked

/-- A fetch that waits for its answers may go on waiting. -/
lemma delay (h : Phase kind a) {f : Fetch} {g : Gathered} (isThere : f ∈ a.fetches)
    (asked : f.stage.gathered? = some g) (stage : FetchStage)
    (gathered : stage.gathered? = some g) :
    Phase kind { a with fetches := [⟨kind, f.round, stage⟩] } ∧ a.fetches = [f] := by
  cases h with
  | idle | stuck => cases isThere
  | begun =>
    obtain rfl := List.mem_singleton.mp isThere
    cases asked
  | asked found ofKind whole =>
    obtain rfl := List.mem_singleton.mp isThere
    obtain rfl : _ = g := Option.some.inj (found.symm.trans asked)
    exact ⟨.asked gathered ofKind whole, rfl⟩

/-- A fetch that has asked is the only one, and its round is the one in the slot. -/
lemma answered (h : Phase kind a) {f : Fetch} {g : Gathered} (isThere : f ∈ a.fetches)
    (asked : f.stage.gathered? = some g) :
    a.fetches = [f] ∧ a.occupant = some f.round ∧ g.kind = kind ∧
      a.answers = (f.round, g) :: a.ends ∧
      ∃ items rest, a.starts = (f.round, items) :: rest ∧ Whole rest a.ends := by
  cases h with
  | idle | stuck => cases isThere
  | begun =>
    obtain rfl := List.mem_singleton.mp isThere
    cases asked
  | asked found ofKind whole =>
    obtain rfl := List.mem_singleton.mp isThere
    obtain rfl : _ = g := Option.some.inj (found.symm.trans asked)
    exact ⟨rfl, rfl, ofKind, rfl, _, _, rfl, whole⟩

/-- The end of a round frees the slot, unless the round breaks off. -/
lemma finish (h : Phase kind a) {f : Fetch} {g : Gathered} (isThere : f ∈ a.fetches)
    (asked : f.stage.gathered? = some g) :
    Phase kind { a with
      occupant := if g.breaks then a.occupant else none
      fetches := []
      ends := (f.round, g) :: a.ends } := by
  cases h with
  | idle | stuck => cases isThere
  | begun =>
    obtain rfl := List.mem_singleton.mp isThere
    cases asked
  | asked found ofKind whole =>
    obtain rfl := List.mem_singleton.mp isThere
    obtain rfl : _ = g := Option.some.inj (found.symm.trans asked)
    cases broke : Gathered.breaks _ with
    | true => exact .stuck ofKind broke whole
    | false =>
      exact .idle ⟨congrArg (_ :: ·) whole.rounds, List.forall_mem_cons.mpr ⟨broke, whole.unbroken⟩⟩

/-- Only the round in the slot is fetched. -/
lemma occupant_of_mem (h : Phase kind a) {f : Fetch} (isThere : f ∈ a.fetches) :
    a.occupant = some f.round := by
  cases h with
  | idle | stuck => cases isThere
  | begun | asked => rw [List.mem_singleton.mp isThere]

lemma fetches_of_vacant (h : Phase kind a) (vacant : a.occupant = none) : a.fetches = [] := by
  cases h with
  | idle => rfl
  | begun | asked | stuck => cases vacant

/-- A round in the slot is fetched, or it broke off and nothing is fetched. -/
lemma fetched_or_broken (h : Phase kind a) {round : Nat} (occupied : a.occupant = some round) :
    (∃ f ∈ a.fetches, f.round = round) ∨
      a.fetches = [] ∧ ∃ g, (round, g) ∈ a.ends ∧ g.breaks = true := by
  cases h with
  | idle => cases occupied
  | begun | asked =>
    obtain rfl := Option.some.inj occupied
    exact .inl ⟨_, List.mem_singleton_self _, rfl⟩
  | stuck _ broke =>
    obtain rfl := Option.some.inj occupied
    exact .inr ⟨rfl, _, List.mem_cons_self, broke⟩

/-- A free slot has seen the end of every round that started. -/
lemma ends_of_vacant (h : Phase kind a) (vacant : a.occupant = none) :
    a.ends.map Prod.fst = a.starts.map Prod.fst := by
  cases h with
  | idle whole => exact whole.rounds
  | begun | asked | stuck => cases vacant

lemma length_fetches_le (h : Phase kind a) : a.fetches.length ≤ 1 := by
  cases h <;> simp

/-- The slot holds the last round that started, until this ends by anything but breaking off. -/
lemma occupant_iff (h : Phase kind a) (decreasing : (a.starts.map Prod.fst).Pairwise (· > ·))
    (round : Nat) : a.occupant = some round
      ↔ a.starts.head?.map Prod.fst = some round ∧
        ∀ g, (round, g) ∈ a.ends → g.breaks = true := by
  cases h with
  | @idle s e whole =>
    constructor
    · intro occupied
      cases occupied
    · rintro ⟨last, broken⟩
      -- The last round has ended too, and it did not break off.
      obtain ⟨x, isHead, rfl⟩ := Option.map_eq_some_iff.mp last
      have ended := List.mem_map_of_mem (f := Prod.fst) (List.mem_of_mem_head? isHead)
      rw [← whole.rounds] at ended
      obtain ⟨⟨_, g⟩, mem, rfl⟩ := List.mem_map.mp ended
      exact absurd mem (whole.not_mem_of_breaks (broken g mem))
  | begun whole | asked _ _ whole =>
    refine ⟨fun occupied => ?_, fun last => last.1⟩
    obtain rfl := Option.some.inj occupied
    refine ⟨rfl, fun g mem => ?_⟩
    exact absurd (List.mem_map_of_mem mem) (whole.not_ended decreasing)
  | stuck _ broke whole =>
    refine ⟨fun occupied => ?_, fun last => last.1⟩
    obtain rfl := Option.some.inj occupied
    refine ⟨rfl, fun g mem => ?_⟩
    rcases List.mem_cons.mp mem with own | before
    · rw [(Prod.mk.inj own).2]
      exact broke
    · exact absurd (List.mem_map_of_mem before) (whole.not_ended decreasing)

/-- After a round broke off there is no other: it is the last that started and it is stuck. -/
lemma stuck_of_broken (h : Phase kind a) {round : Nat} {g : Gathered} (ended : (round, g) ∈ a.ends)
    (broke : g.breaks = true) : a.occupant = some round ∧ a.requests = a.starts ∧
      a.starts.head?.map Prod.fst = some round := by
  cases h with
  | idle whole | begun whole | asked _ _ whole =>
    exact absurd ended (whole.not_mem_of_breaks broke)
  | stuck _ _ whole =>
    rcases List.mem_cons.mp ended with own | before
    · rw [(Prod.mk.inj own).1]
      exact ⟨rfl, rfl, rfl⟩
    · exact absurd before (whole.not_mem_of_breaks broke)

/-- The rounds that asked their questions are those that started, up to the last. -/
lemma requests_suffix (h : Phase kind a) : a.requests <:+ a.starts := by
  cases h with
  | idle | asked | stuck => exact List.suffix_rfl
  | begun => exact List.suffix_cons _ _

/-- The rounds that ended are those that started, up to the last. -/
lemma ends_suffix (h : Phase kind a) : a.ends.map Prod.fst <:+ a.starts.map Prod.fst := by
  cases h with
  | idle whole => exact whole.rounds ▸ List.suffix_rfl
  | begun whole | asked _ _ whole => exact whole.rounds ▸ List.suffix_cons _ _
  | stuck _ _ whole =>
    refine ⟨[], ?_⟩
    rw [List.nil_append, List.map_cons, List.map_cons, whole.rounds]

/-- The rounds that are fetched are those that started and did not end. -/
lemma isFetched_iff (h : Phase kind a)
    (decreasing : (a.starts.map Prod.fst).Pairwise (· > ·)) (round : Nat) :
    (∃ f ∈ a.fetches, f.round = round)
      ↔ round ∈ a.starts.map Prod.fst ∧ round ∉ a.ends.map Prod.fst := by
  -- When a round is fetched, it is the last that started, and all before it ended.
  have running {r : Nat} {items : List String} {s : List (Nat × List String)}
      {e : List (Nat × Gathered)} {stage : FetchStage} (whole : Whole s e)
      (decreasing : (((r, items) :: s).map Prod.fst).Pairwise (· > ·)) :
      (∃ f ∈ [(⟨kind, r, stage⟩ : Fetch)], f.round = round)
        ↔ round ∈ ((r, items) :: s).map Prod.fst ∧ round ∉ e.map Prod.fst := by
    constructor
    · rintro ⟨f, isThere, rfl⟩
      rw [List.mem_singleton.mp isThere]
      exact ⟨List.mem_cons_self, whole.not_ended decreasing⟩
    · rintro ⟨started, notEnded⟩
      rw [whole.rounds] at notEnded
      rcases List.mem_cons.mp started with rfl | before
      · exact ⟨_, List.mem_singleton_self _, rfl⟩
      · exact absurd before notEnded
  have allEnded {s : List (Nat × List String)} {e : List (Nat × Gathered)}
      (same : e.map Prod.fst = s.map Prod.fst) :
      (∃ f ∈ ([] : List Fetch), f.round = round)
        ↔ round ∈ s.map Prod.fst ∧ round ∉ e.map Prod.fst := by
    rw [same]
    simp
  cases h with
  | idle whole => exact allEnded whole.rounds
  | begun whole => exact running whole decreasing
  | asked _ _ whole => exact running whole decreasing
  | stuck _ _ whole => exact allEnded (congrArg (_ :: ·) whole.rounds)

end Phase

end MetricWatch
