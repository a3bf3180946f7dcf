import MetricWatch.Proofs.Counting
import MetricWatch.Proofs.Rounds.Move
import Mathlib.Algebra.BigOperators.Group.Finset.Piecewise
import Mathlib.Algebra.BigOperators.Ring.Finset
import Mathlib.Algebra.Order.BigOperators.Group.Finset

/-!
# Independent views

Views register what they want at one store and take back no more than they registered. In whatever
order their operations come, every count is the sum of what the views still want, so that no view
takes anything from another. The main statement is `Registrations.shared_by_views`.
-/

namespace MetricWatch

open Timeline

/-! ### What one view wants -/

/-- How often operations register an interest, less how often they take it back. -/
def balance (i : Interest) (operations : List Operation) : Int :=
  (operations.count (.add i) : Int) - operations.count (.remove i)

/-- Whether operations never take back more than they registered so far. -/
def Modest (operations : List Operation) : Prop :=
  ∀ before, before <+: operations → ∀ i, before.count (.remove i) ≤ before.count (.add i)

/-- Only interests that operations mention have to be looked at. -/
lemma modest_iff {operations : List Operation} : Modest operations ↔
    ∀ before ∈ operations.inits, ∀ o ∈ operations,
      before.count (.remove o.interest) ≤ before.count (.add o.interest) := by
  simp only [List.mem_inits]
  constructor
  · intro modest before isPrefix o _
    exact modest before isPrefix o.interest
  · intro modest before isPrefix i
    by_cases mentioned : .remove i ∈ operations
    · exact modest before isPrefix _ mentioned
    · have never : .remove i ∉ before := fun mem => mentioned (isPrefix.subset mem)
      rw [List.count_eq_zero_of_not_mem never]
      exact Nat.zero_le _

instance (operations : List Operation) : Decidable (Modest operations) :=
  decidable_of_iff _ modest_iff.symm

lemma Modest.of_before {operations before : List Operation} (h : Modest operations)
    (isPrefix : before <+: operations) : Modest before :=
  fun earlier isEarlier => h earlier (isEarlier.trans isPrefix)

lemma Modest.balance_nonneg {operations : List Operation} (h : Modest operations) (i : Interest) :
    0 ≤ balance i operations := by
  have most := h operations List.prefix_rfl i
  unfold balance
  omega

lemma balance_append (i : Interest) (operations : List Operation) (o : Operation) :
    balance i (operations ++ [o]) = balance i operations + balance i [o] := by
  simp only [balance, List.count_append]
  omega

/-- Where nothing is taken back that was not registered, nothing is taken from zero. -/
lemma tally_of_modest {operations : List Operation} (modest : Modest operations) (i : Interest) :
    (tally i operations : Int) = balance i operations := by
  induction operations using List.reverseRecOn with
  | nil => rfl
  | append_singleton operations o ih =>
    have before := ih (modest.of_before (List.prefix_append _ _))
    have most := modest (operations ++ [o]) List.prefix_rfl i
    rw [tally_append, balance_append, ← before]
    unfold balance at before
    rw [List.count_append, List.count_append] at most
    by_cases own : o.interest = i
    · rw [if_pos own]
      cases o with
      | add j =>
        obtain rfl : j = i := own
        simp [balance, Operation.apply]
      | remove j =>
        obtain rfl : j = i := own
        simp [balance, Operation.apply] at most ⊢
        omega
    · rw [if_neg own]
      cases o with
      | add j | remove j => simp [balance, show j ≠ i from own]

/-! ### Operations of several views -/

section

variable {ι : Type} [DecidableEq ι]

/-- The operations of one view among those of several, in order. -/
def ofView (view : ι) (shared : List (ι × Operation)) : List Operation :=
  (shared.filter fun o => o.1 = view).map Prod.snd

/-- Whether operations of several views are those of each view, in its order, in any order among
each other. -/
def Interleaves (views : ι → List Operation) (shared : List (ι × Operation)) : Prop :=
  ∀ view, ofView view shared = views view

lemma ofView_append (view : ι) (before after : List (ι × Operation)) :
    ofView view (before ++ after) = ofView view before ++ ofView view after := by
  simp [ofView, List.filter_append]

variable [Fintype ι] {views : ι → List Operation} {shared : List (ι × Operation)}

lemma count_shared (shared : List (ι × Operation)) (o : Operation) :
    (shared.map Prod.snd).count o = ∑ view, (ofView view shared).count o := by
  induction shared with
  | nil => simp [ofView]
  | cons x shared ih =>
    obtain ⟨view, o'⟩ := x
    have here (other : ι) : (ofView other ((view, o') :: shared)).count o
        = (ofView other shared).count o + if view = other then [o'].count o else 0 := by
      by_cases own : view = other <;> simp [ofView, own, List.count_cons]
    simp only [here, Finset.sum_add_distrib, Finset.sum_ite_eq, Finset.mem_univ, if_true, ← ih,
      List.map_cons, List.count_cons, List.count_nil, Nat.zero_add]

/-- What all views want together is the sum of what they want. -/
lemma balance_shared (i : Interest) (shared : List (ι × Operation)) :
    balance i (shared.map Prod.snd) = ∑ view, balance i (ofView view shared) := by
  simp only [balance, count_shared, Nat.cast_sum, Finset.sum_sub_distrib]

omit [Fintype ι] in
/-- What a view did at some point of the common operations, it did at some point of its own. -/
lemma modest_ofView (modest : ∀ view, Modest (views view)) (interleaves : Interleaves views shared)
    {before : List (ι × Operation)} (isPrefix : before <+: shared) (view : ι) :
    Modest (ofView view before) := by
  obtain ⟨after, rfl⟩ := isPrefix
  apply (modest view).of_before
  rw [← interleaves view, ofView_append]
  exact List.prefix_append _ _

/-- Views that are modest are so together. -/
lemma modest_shared (modest : ∀ view, Modest (views view)) (interleaves : Interleaves views shared) :
    Modest (shared.map Prod.snd) := by
  rintro before ⟨after, split⟩ i
  obtain ⟨earlier, later, rfl, rfl, -⟩ := List.map_eq_append_iff.mp split.symm
  rw [count_shared, count_shared]
  refine Finset.sum_le_sum fun view _ => ?_
  exact modest_ofView modest interleaves (List.prefix_append _ _) view _ List.prefix_rfl i

/-! ### The operations of a run -/

/-- The operation on the registrations that a mark leaves, if it is one. -/
def Mark.operation? : Mark → Option Operation
  | .chore (.add nodeId name) => some (.add (.onNode nodeId name))
  | .chore (.remove nodeId name) => some (.remove (.onNode nodeId name))
  | .chore (.addGlobal name) => some (.add (.anywhere name))
  | .chore (.removeGlobal name) => some (.remove (.anywhere name))
  | _ => none

/-- The operations on the registrations in a run, in order. -/
def operations (marks : List Mark) : List Operation := (marks.filterMap Mark.operation?).reverse

lemma registrations_conclude (s : Store) (round now : Nat) (g : Gathered) :
    (conclude s round now g).registrations = s.registrations := by
  cases g with
  | list reply => cases reply <;> rfl
  | names replies =>
    unfold conclude
    dsimp only
    split <;> rfl

lemma registrations_occupy (s : Store) (kind : RoundKind) :
    (s.occupy kind).registrations = s.registrations := by cases kind <;> rfl

/-- A chore changes the registrations by its operation, if it is one. -/
lemma registrations_chore (s : Store) (c : Chore) :
    (s.perform c).registrations = match (Mark.chore c).operation? with
      | some o => (s.registrations.perform o).2
      | none => s.registrations := by
  cases c with
  | receive subscriber =>
    simp only [Store.perform]
    split <;> rfl
  | _ => rfl

namespace Registrations

/-- The registrations of a store are those of the operations of its run: rounds, callers and the
other chores leave them alone. -/
lemma registrations_of_run {σ : Type} {S : Source σ} {marks : List Mark} {t : Timeline σ}
    (run : Run S marks t) : t.store.registrations = replay (operations marks) := by
  refine run.induct (P := fun marks w => w.store.registrations = replay (operations marks)) ?_ ?_
  · rintro _ ⟨session, directory, namesNamespace, capacity, rfl⟩
    rfl
  · intro marks w m w' ih change
    have same (quiet : m.operation? = none) : operations (m :: marks) = operations marks := by
      rw [operations, List.filterMap_cons_none quiet, operations]
    cases change with
    | chore c =>
      rw [registrations_chore, ih]
      cases isOperation : (Mark.chore c).operation? with
      | none => rw [same isOperation]
      | some o =>
        have more : operations (.chore c :: marks) = operations marks ++ [o] := by
          rw [operations, List.filterMap_cons_some isOperation, List.reverse_cons, operations]
        rw [more, replay_append]
    | declined | joined =>
      rw [Work.store_tell, same rfl, ih]
    | started =>
      rw [Work.store_tell, Work.store_start, registrations_occupy, same rfl, ih]
    | ended =>
      rw [Work.store_finish, registrations_conclude, same rfl, ih]
    | served | spawned | abandoned | asked | delayed =>
      rw [same rfl, ← ih]
      rfl
    | aside => rw [same rfl, ih]

/-! ### The main statement -/

/-- How views that share a store stand to its registrations. -/
structure SharedByViews (views : ι → List Operation) (shared : List (ι × Operation)) : Prop where
  /-- At every point the count of an interest is the sum of what the views want so far, -/
  counts : ∀ before, before <+: shared → ∀ i,
    ((replay (before.map Prod.snd)).countOf i : Int) = ∑ view, balance i (ofView view before)
  /-- which is at least what each of them wants; -/
  kept : ∀ before, before <+: shared → ∀ view i,
    balance i (ofView view before) ≤ (replay (before.map Prod.snd)).countOf i
  /-- nothing is ever taken from zero. -/
  unfloored : ∀ before view i after, shared = before ++ (view, .remove i) :: after →
    0 < (replay (before.map Prod.snd)).countOf i
  /-- In the end the tables are those of any other order, and of any other operations by which the
  views want the same. -/
  totals : ∀ views' shared', (∀ view, Modest (views' view)) → Interleaves views' shared' →
    (∀ view i, balance i (views' view) = balance i (views view)) →
      replay (shared'.map Prod.snd) = replay (shared.map Prod.snd)
  /-- When every view has taken back all that it registered, the tables are empty and nothing is
  fetched. -/
  cleared : (∀ view i, balance i (views view) = 0) →
    replay (shared.map Prod.snd) = empty ∧ (replay (shared.map Prod.snd)).toFetch = []
  /-- These are the tables of every store at which the operations were performed, whatever else
  happened there. -/
  atStore : ∀ {σ : Type} {S : Source σ} {marks : List Mark} {t : Timeline σ}, Run S marks t →
    operations marks = shared.map Prod.snd →
      t.store.registrations = replay (shared.map Prod.snd)

/-- Where views are modest a count is the sum of what they want. -/
lemma countOf_shared (modest : ∀ view, Modest (views view)) (interleaves : Interleaves views shared)
    {before : List (ι × Operation)} (isPrefix : before <+: shared) (i : Interest) :
    ((replay (before.map Prod.snd)).countOf i : Int) = ∑ view, balance i (ofView view before) := by
  have together := (modest_shared modest interleaves).of_before (isPrefix.map Prod.snd)
  rw [countOf_replay, tally_of_modest together, balance_shared]

/-- Tables of the same counts are the same, so only what the views want in the end matters. -/
lemma replay_shared_eq {views' : ι → List Operation} {shared' : List (ι × Operation)}
    (modest : ∀ view, Modest (views view)) (interleaves : Interleaves views shared)
    (modest' : ∀ view, Modest (views' view)) (interleaves' : Interleaves views' shared')
    (same : ∀ view i, balance i (views' view) = balance i (views view)) :
    replay (shared'.map Prod.snd) = replay (shared.map Prod.snd) := by
  apply (canonical_replay _).ext (canonical_replay _)
  intro i
  have counts := countOf_shared modest interleaves List.prefix_rfl i
  have counts' := countOf_shared modest' interleaves' List.prefix_rfl i
  simp only [interleaves _] at counts
  simp only [interleaves' _, same] at counts'
  exact Int.ofNat.inj (counts'.trans counts.symm)

/-- Views do not disturb each other as long as each takes back only what it registered. -/
theorem shared_by_views (modest : ∀ view, Modest (views view)) (interleaves : Interleaves views shared) :
    SharedByViews views shared where
  counts _ isPrefix i := countOf_shared modest interleaves isPrefix i
  kept before isPrefix view i := by
    rw [countOf_shared modest interleaves isPrefix]
    have nonneg (other : ι) : 0 ≤ balance i (ofView other before) :=
      (modest_ofView modest interleaves isPrefix other).balance_nonneg i
    exact Finset.single_le_sum (fun other _ => nonneg other) (Finset.mem_univ view)
  unfloored before view i after split := by
    have isPrefix : before ++ [(view, .remove i)] <+: shared :=
      ⟨after, by rw [split, List.append_assoc, List.singleton_append]⟩
    have together := (modest_shared modest interleaves).of_before (isPrefix.map Prod.snd)
    -- The removal that comes next is covered by what was registered before it.
    have most := together _ List.prefix_rfl i
    have earlier := together.of_before (List.map_append ▸ List.prefix_append _ _)
    have count := tally_of_modest earlier i
    rw [List.map_append, List.count_append, List.count_append] at most
    rw [countOf_replay]
    unfold balance at count
    simp at most
    omega
  totals _ _ modest' interleaves' same :=
    replay_shared_eq modest interleaves modest' interleaves' same
  cleared nothing :=
    have idle : ∀ _ : ι, Modest [] := fun _ => by decide
    have emptied : replay (shared.map Prod.snd) = empty :=
      replay_shared_eq idle (fun _ => rfl : Interleaves (fun _ => []) []) modest interleaves nothing
    ⟨emptied, by rw [emptied]; rfl⟩
  atStore run split := by rw [registrations_of_run run, split]

/-- Two views that want the same name on a node, one of which also wants another name anywhere: the
second takes its name back while the first still wants it. -/
theorem shared_by_two_views :
    let name := Interest.onNode "n" "m"
    let views : Fin 2 → List Operation
      | 0 => [.add name, .remove name]
      | 1 => [.add name, .add (.anywhere "k"), .remove name]
    let shared : List (Fin 2 × Operation) :=
      [(0, .add name), (1, .add name), (1, .add (.anywhere "k")), (1, .remove name),
        (0, .remove name)]
    (∀ view, Modest (views view)) ∧ Interleaves views shared ∧ SharedByViews views shared := by
  intro name views shared
  have modest : ∀ view, Modest (views view) := by decide
  have interleaves : Interleaves views shared := by
    unfold Interleaves
    decide
  exact ⟨modest, interleaves, shared_by_views modest interleaves⟩

end Registrations

end

end MetricWatch
