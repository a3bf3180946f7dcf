import MetricWatch.Watch.Registrations
import MetricWatch.Proofs.Maps
import Mathlib.Data.List.Induction

/-!
# Registrations as counts

Tables of registrations are a way to write down counts: whatever operations led to them, they hold
the count of each interest and nothing else, so that tables are equal when their counts are. The
main statement is `replay_counted`.
-/

namespace MetricWatch

open Json (Members)

/-! ### Operations -/

namespace Operation

/-- What an operation registers or no longer registers. -/
def interest : Operation → Interest
  | .add i => i
  | .remove i => i

/-- The count of the interest of an operation, after it; nothing is taken from zero. -/
def apply : Operation → Nat → Nat
  | .add _, n => n + 1
  | .remove _, n => n - 1

/-- What an operation makes of the counts by name in which its interest stands. -/
def change : Operation → Counts → String → Counts
  | .add _ => Counts.increment
  | .remove _ => Counts.decrement

end Operation

/-- What operations make of the count of an interest, which starts at zero. -/
def tally (i : Interest) (operations : List Operation) : Nat :=
  (operations.filter fun o => o.interest = i).foldl (fun n o => o.apply n) 0

lemma tally_append (i : Interest) (operations : List Operation) (o : Operation) :
    tally i (operations ++ [o])
      = if o.interest = i then o.apply (tally i operations) else tally i operations := by
  unfold tally
  rw [List.filter_append, List.foldl_append]
  by_cases own : o.interest = i <;> simp [own]

/-- A count is at most the number of operations. -/
lemma tally_le (i : Interest) (operations : List Operation) :
    tally i operations ≤ operations.length := by
  induction operations using List.reverseRecOn with
  | nil => exact Nat.le_refl 0
  | append_singleton operations o ih =>
    rw [tally_append, List.length_append, List.length_singleton]
    split
    · cases o with
      | add => exact Nat.succ_le_succ ih
      | remove => exact Nat.le_succ_of_le (Nat.le_trans (Nat.sub_le _ 1) ih)
    · exact Nat.le_succ_of_le ih

/-! ### Counts by name -/

namespace Counts

variable {c c' : Counts}

lemma count_increment (c : Counts) (name other : String) :
    (c.increment name).count other = if name = other then c.count name + 1 else c.count other := by
  simp only [increment, count, Members.get?_put]
  split <;> rfl

lemma count_decrement (c : Counts) (name other : String) :
    (c.decrement name).count other = if name = other then c.count name - 1 else c.count other := by
  unfold decrement
  split
  · next last =>
    rw [Nat.sub_eq_zero_of_le last]
    simp only [count, Members.get?_erase]
    split <;> rfl
  · simp only [count, Members.get?_put]
    split <;> rfl

lemma count_change (o : Operation) (c : Counts) (name other : String) :
    (o.change c name).count other = if name = other then o.apply (c.count other) else c.count other := by
  cases o with
  | add =>
    apply (count_increment c name other).trans
    split
    · next own => rw [own]; rfl
    · rfl
  | remove =>
    apply (count_decrement c name other).trans
    split
    · next own => rw [own]; rfl
    · rfl

/-- Counts that are written down in the one way there is: names in order, and no count of zero. -/
structure Canonical (c : Counts) : Prop where
  sorted : Members.Sorted c
  positive : ∀ e ∈ c, 0 < e.2

namespace Canonical

lemma nil : Canonical [] := ⟨Members.sorted_nil, List.forall_mem_nil _⟩

lemma put (h : Canonical c) (name : String) {n : Nat} (positive : 0 < n) :
    Canonical (Members.put name n c) := by
  refine ⟨Members.sorted_put h.sorted name n, ?_⟩
  intro e mem
  rcases Members.mem_put mem with rfl | old
  · exact positive
  · exact h.positive e old

lemma change (h : Canonical c) (o : Operation) (name : String) : (o.change c name).Canonical := by
  cases o with
  | add => exact h.put name (Nat.succ_pos _)
  | remove =>
    simp only [Operation.change, decrement]
    split
    · refine ⟨Members.sorted_erase h.sorted name, ?_⟩
      intro e mem
      exact h.positive e (List.mem_filter.mp mem).1
    · apply h.put
      omega

/-- A name stands in canonical counts only if its count is not zero. -/
lemma get?_eq (h : Canonical c) (name : String) :
    Members.get? c name = if c.count name = 0 then none else some (c.count name) := by
  unfold count
  cases found : Members.get? c name with
  | none => rfl
  | some n =>
    have positive := h.positive _ (Members.mem_of_get? found)
    simp [Nat.ne_of_gt positive]

lemma ext (h : Canonical c) (h' : Canonical c') (same : ∀ name, c.count name = c'.count name) :
    c = c' := by
  apply h.sorted.ext h'.sorted
  intro name
  rw [h.get?_eq, h'.get?_eq, same]

end Canonical

end Counts

/-! ### Tables -/

namespace Registrations

variable {r r' : Registrations}

/-- Setting the counts of a node sets them for this node and for no other. -/
lemma node_setNode (r : Registrations) (nodeId : String) (counts : Counts) (other : String) :
    (r.setNode nodeId counts).node other = if nodeId = other then counts else r.node other := by
  unfold setNode node
  cases counts with
  | nil =>
    simp only [List.isEmpty_nil, if_true, Members.get?_erase]
    split <;> rfl
  | cons m rest =>
    simp only [List.isEmpty_cons, Bool.false_eq_true, if_false, Members.get?_put]
    split <;> rfl

lemma perform_fst (r : Registrations) (o : Operation) :
    (r.perform o).1 = o.apply (r.countOf o.interest) := by
  cases o with
  | add i | remove i => cases i <;> rfl

lemma perform_snd (r : Registrations) (o : Operation) :
    (r.perform o).2 = match o.interest with
      | .onNode nodeId name => r.setNode nodeId (o.change (r.node nodeId) name)
      | .anywhere name => { r with anywhere := o.change r.anywhere name } := by
  cases o with
  | add i | remove i => cases i <;> rfl

/-- An operation changes the count of its interest and of no other. -/
theorem countOf_perform (r : Registrations) (o : Operation) (i : Interest) :
    (r.perform o).2.countOf i = if o.interest = i then o.apply (r.countOf i) else r.countOf i := by
  rw [perform_snd]
  cases o.interest with
  | onNode nodeId name =>
    cases i with
    | onNode other name' =>
      simp only [countOf, count, node_setNode, Interest.onNode.injEq]
      by_cases own : nodeId = other
      · subst own
        simp only [if_true, true_and, Counts.count_change]
      · simp only [own, if_false, false_and]
    | anywhere => rfl
  | anywhere name =>
    cases i with
    | onNode => rfl
    | anywhere name' => simp only [countOf, globalCount, Counts.count_change, Interest.anywhere.injEq]

/-- Tables that are written down in the one way there is: nodes in order, each with counts, and all
counts canonical. -/
structure Canonical (r : Registrations) : Prop where
  sorted : Members.Sorted r.perNode
  nodes : ∀ n ∈ r.perNode, n.2 ≠ [] ∧ Counts.Canonical n.2
  anywhere : r.anywhere.Canonical

namespace Canonical

lemma empty : Canonical empty := ⟨Members.sorted_nil, List.forall_mem_nil _, .nil⟩

lemma node (h : Canonical r) (nodeId : String) : (r.node nodeId).Canonical := by
  unfold Registrations.node
  cases found : r.perNode.get? nodeId with
  | none => exact .nil
  | some counts => exact (h.nodes _ (Members.mem_of_get? found)).2

lemma setNode (h : Canonical r) (nodeId : String) {counts : Counts} (canonical : counts.Canonical) :
    (r.setNode nodeId counts).Canonical := by
  unfold Registrations.setNode
  split
  · refine ⟨Members.sorted_erase h.sorted nodeId, ?_, h.anywhere⟩
    intro n mem
    exact h.nodes n (List.mem_filter.mp mem).1
  · next some =>
    refine ⟨Members.sorted_put h.sorted nodeId counts, ?_, h.anywhere⟩
    intro n mem
    rcases Members.mem_put mem with rfl | old
    · refine ⟨?_, canonical⟩
      rintro rfl
      exact some rfl
    · exact h.nodes n old

/-- No operation leaves a count of zero or a node without counts. -/
lemma perform (h : Canonical r) (o : Operation) : (r.perform o).2.Canonical := by
  rw [perform_snd]
  cases o.interest with
  | onNode nodeId name => exact h.setNode nodeId ((h.node nodeId).change o name)
  | anywhere name => exact ⟨h.sorted, h.nodes, h.anywhere.change o name⟩

/-- A node stands in canonical tables only if it has counts. -/
lemma get?_eq (h : Canonical r) (nodeId : String) :
    r.perNode.get? nodeId = if r.node nodeId = [] then none else some (r.node nodeId) := by
  unfold Registrations.node
  cases found : r.perNode.get? nodeId with
  | none => rfl
  | some counts =>
    have some := (h.nodes _ (Members.mem_of_get? found)).1
    simp only [Option.getD_some, some, if_false]

/-- Canonical tables are their counts. -/
theorem ext (h : Canonical r) (h' : Canonical r') (same : ∀ i, r.countOf i = r'.countOf i) :
    r = r' := by
  have sameNode (nodeId : String) : r.node nodeId = r'.node nodeId :=
    (h.node nodeId).ext (h'.node nodeId) fun name => same (.onNode nodeId name)
  have sameNodes : r.perNode = r'.perNode := by
    apply h.sorted.ext h'.sorted
    intro nodeId
    rw [h.get?_eq, h'.get?_eq, sameNode]
  have sameAnywhere : r.anywhere = r'.anywhere :=
    h.anywhere.ext h'.anywhere fun name => same (.anywhere name)
  cases r
  cases r'
  simp only at sameNodes sameAnywhere
  rw [sameNodes, sameAnywhere]

lemma isEmpty_iff (h : Canonical r) : r.isEmpty = true ↔ ∀ i, r.countOf i = 0 := by
  have isEmpty : r.isEmpty = true ↔ r = Registrations.empty := by
    cases r
    simp [Registrations.isEmpty, Registrations.empty]
  rw [isEmpty]
  constructor
  · rintro rfl i
    cases i <;> rfl
  · intro zero
    refine h.ext empty fun i => ?_
    rw [zero]
    cases i <;> rfl

end Canonical

/-! ### Histories -/

/-- The tables after operations, one after the other, from empty tables on. -/
def replay (operations : List Operation) : Registrations :=
  operations.foldl (fun r o => (r.perform o).2) empty

lemma replay_append (operations : List Operation) (o : Operation) :
    replay (operations ++ [o]) = ((replay operations).perform o).2 := by
  simp [replay]

lemma countOf_replay (operations : List Operation) (i : Interest) :
    (replay operations).countOf i = tally i operations := by
  induction operations using List.reverseRecOn with
  | nil => cases i <;> rfl
  | append_singleton operations o ih => rw [replay_append, countOf_perform, tally_append, ih]

lemma canonical_replay (operations : List Operation) : (replay operations).Canonical := by
  induction operations using List.reverseRecOn with
  | nil => exact .empty
  | append_singleton operations o ih =>
    rw [replay_append]
    exact ih.perform o

/-! ### The main statement -/

/-- One more than the largest count that there is room for. -/
def countLimit : Nat := UInt64.size

/-- How tables stand to the counts of the operations that led to them. -/
structure Counted (operations : List Operation) : Prop where
  /-- The count of an interest is what its own operations make of it, -/
  counts : ∀ i, (replay operations).countOf i = tally i operations
  /-- as every operation on the way returns it, for which there is room; and no operation changes
  another count. -/
  returned : ∀ {before o after}, operations = before ++ o :: after →
    ((replay before).perform o).1 = tally o.interest (before ++ [o]) ∧
      ((replay before).perform o).1 < countLimit ∧
      ((replay before).perform o).2.countOf o.interest = ((replay before).perform o).1 ∧
      ∀ i, i ≠ o.interest → ((replay before).perform o).2.countOf i = (replay before).countOf i
  /-- No count of zero is kept, and no node without counts. -/
  positive : (∀ e ∈ (replay operations).anywhere, 0 < e.2) ∧
    ∀ n ∈ (replay operations).perNode, n.2 ≠ [] ∧ ∀ e ∈ n.2, 0 < e.2
  /-- The tables are empty when all counts are zero, -/
  isEmpty_iff : (replay operations).isEmpty = true ↔ ∀ i, (replay operations).countOf i = 0
  /-- they are those of another history when all counts are, -/
  eq_iff : ∀ others : List Operation, others.length < countLimit →
    (replay operations = replay others
      ↔ ∀ i, (replay operations).countOf i = (replay others).countOf i)
  /-- and to remove what was just added restores them. -/
  restored : ∀ {before i after}, operations = before ++ .add i :: .remove i :: after →
    replay (before ++ [.add i, .remove i]) = replay before

/-- Tables hold the counts of every history that is not too long for them. -/
theorem replay_counted (operations : List Operation) (few : operations.length < countLimit) :
    Counted operations where
  counts := countOf_replay operations
  returned {before o after} split := by
    have returns : ((replay before).perform o).1 = tally o.interest (before ++ [o]) := by
      rw [perform_fst, countOf_replay, tally_append, if_pos rfl]
    refine ⟨returns, ?_, ?_, ?_⟩
    · -- The count is at most the number of operations so far.
      have atMost := tally_le o.interest (before ++ [o])
      rw [split] at few
      simp only [List.length_append, List.length_cons, List.length_nil] at atMost few
      omega
    · rw [countOf_perform, if_pos rfl, perform_fst]
    · intro i other
      rw [countOf_perform, if_neg (Ne.symm other)]
  positive := by
    have canonical := canonical_replay operations
    refine ⟨canonical.anywhere.positive, ?_⟩
    intro n mem
    obtain ⟨some, counts⟩ := canonical.nodes n mem
    exact ⟨some, counts.positive⟩
  isEmpty_iff := (canonical_replay operations).isEmpty_iff
  eq_iff others _ := by
    constructor
    · intro same i
      rw [same]
    · exact (canonical_replay operations).ext (canonical_replay others)
  restored {before i after} _ := by
    apply (canonical_replay _).ext (canonical_replay before)
    intro j
    rw [List.append_cons, countOf_replay, tally_append, tally_append, countOf_replay]
    simp only [Operation.interest, Operation.apply]
    by_cases own : i = j
    · simp only [own, if_true, Nat.add_sub_cancel]
    · simp only [own, if_false]

theorem replay_counted_of_three :
    [Operation.add (.onNode "n" "m"), .remove (.onNode "n" "m"), .add (.anywhere "m")].length
      < countLimit ∧
    Counted [.add (.onNode "n" "m"), .remove (.onNode "n" "m"), .add (.anywhere "m")] :=
  ⟨by decide, replay_counted _ (by decide)⟩

end Registrations

end MetricWatch
