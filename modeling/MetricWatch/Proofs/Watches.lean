import MetricWatch.Daemon.Basic
import MetricWatch.Proofs.Wanted
import Mathlib.Algebra.GroupWithZero.Nat
import Mathlib.Data.List.Count

/-!
# Watches as registrations

A daemon that watches registers every mention of a name once, and nothing else about it changes. So
the counts grow by how often names are mentioned, the answer is how many registrations were made,
and whoever removes every mention once, in whatever order, has the old tables back. The main
statement is `Daemon.watched`.
-/

namespace MetricWatch

open Json (Members)
open Text.Utf8 (encode encode_lt)

/-! ### Mentions -/

namespace WatchSettings

variable {w : WatchSettings}

/-- What the settings ask to register, one interest for each mention. -/
def interests (w : WatchSettings) : List Interest :=
  w.anywhere.map .anywhere ++ w.mentions.map fun m => .onNode m.1 m.2

/-- The names that the settings list for a node. -/
def namesOn (w : WatchSettings) (nodeId : String) : List String := (w.nodes.get? nodeId).getD []

lemma length_interests (w : WatchSettings) : w.interests.length = w.total := by
  simp [interests, total]

/-- The list for any node mentions a name as often as it has it. -/
lemma count_anywhere (w : WatchSettings) (name : String) :
    w.interests.count (.anywhere name) = w.anywhere.count name := by
  have injective : Function.Injective Interest.anywhere := fun _ _ => Interest.anywhere.inj
  have onNodes : (w.mentions.map fun m => Interest.onNode m.1 m.2).count (.anywhere name) = 0 :=
    List.count_eq_zero_of_not_mem (by simp)
  rw [interests, List.count_append, onNodes, List.count_map_of_injective _ _ injective,
    Nat.add_zero]

/-- The list for a node mentions a name there as often as it has it. -/
lemma count_onNode (sorted : Members.Sorted w.nodes) (nodeId name : String) :
    w.interests.count (.onNode nodeId name) = (w.namesOn nodeId).count name := by
  have anywhere : (w.anywhere.map Interest.anywhere).count (.onNode nodeId name) = 0 :=
    List.count_eq_zero_of_not_mem (by simp)
  rw [interests, List.count_append, anywhere, Nat.zero_add, mentions, namesOn]
  clear anywhere
  generalize w.nodes = nodes at sorted
  induction nodes with
  | nil => rfl
  | cons n rest ih =>
    obtain ⟨other, names⟩ := n
    rw [List.flatMap_cons, List.map_append, List.count_append, List.map_map, Members.get?_cons,
      ih (List.pairwise_cons.mp sorted).2]
    by_cases own : other = nodeId
    · -- No later list is for the same node.
      subst own
      have injective : Function.Injective (Interest.onNode other) := fun _ _ same =>
        (Interest.onNode.inj same).2
      rw [Members.get?_rest sorted, if_pos rfl]
      exact List.count_map_of_injective _ _ injective _
    · rw [if_neg own, List.count_eq_zero_of_not_mem, Nat.zero_add]
      simp [own]

lemma total_eq_zero : w.total = 0 ↔ w.isEmpty = true := by
  rw [← length_interests, List.length_eq_zero_iff]
  simp [interests, mentions, isEmpty]

end WatchSettings

/-! ### Registrations of mentions -/

/-- A count grows by how often its interest is added, -/
lemma tally_adds (i : Interest) (operations : List Operation) (interests : List Interest) :
    tally i (operations ++ interests.map .add) = tally i operations + interests.count i := by
  induction interests using List.reverseRecOn with
  | nil => simp
  | append_singleton interests j ih =>
    rw [List.map_append, List.map_singleton, ← List.append_assoc, tally_append, ih,
      List.count_append]
    by_cases own : j = i
    · simp [own, Operation.interest, Operation.apply, Nat.add_assoc]
    · simp [own, Operation.interest]

/-- and falls by how often it is removed. -/
lemma tally_removes (i : Interest) (operations : List Operation) (interests : List Interest) :
    tally i (operations ++ interests.map .remove) = tally i operations - interests.count i := by
  induction interests using List.reverseRecOn with
  | nil => simp
  | append_singleton interests j ih =>
    rw [List.map_append, List.map_singleton, ← List.append_assoc, tally_append, ih,
      List.count_append]
    by_cases own : j = i
    · simp [own, Operation.interest, Operation.apply, Nat.sub_sub]
    · simp [own, Operation.interest]

namespace Registrations

variable {r : Registrations}

/-- The tables after more operations. -/
def performAll (r : Registrations) (operations : List Operation) : Registrations :=
  operations.foldl (fun r o => (r.perform o).2) r

lemma performAll_replay (operations more : List Operation) :
    (replay operations).performAll more = replay (operations ++ more) := by
  rw [replay, replay, List.foldl_append, performAll]

/-- Watching adds what is mentioned. -/
lemma watch_eq (r : Registrations) (w : WatchSettings) :
    r.watch w = r.performAll (w.interests.map .add) := by
  rw [performAll, WatchSettings.interests, List.map_append, List.foldl_append, List.map_map,
    List.map_map, List.foldl_map, List.foldl_map]
  rfl

/-- To remove what was added restores the tables, in whatever order it is done. -/
lemma removes_adds (operations : List Operation) {interests others : List Interest}
    (perm : interests.Perm others) :
    ((replay operations).performAll (others.map .add)).performAll (interests.map .remove)
      = replay operations := by
  rw [performAll_replay, performAll_replay]
  apply (canonical_replay _).ext (canonical_replay operations)
  intro i
  rw [countOf_replay, countOf_replay, tally_removes, tally_adds, perm.count_eq, Nat.add_sub_cancel]

lemma countOf_empty (i : Interest) : empty.countOf i = 0 := by cases i <;> rfl

/-! ### How many registrations there are -/

/-- How many registrations there are in all. -/
def size (r : Registrations) : Nat :=
  (r.anywhere.map Prod.snd).sum + (r.perNode.map fun n => (n.2.map Prod.snd).sum).sum

/-- Setting a value adds its amount to a sum, and takes away that of the value before it. -/
lemma sum_put {α : Type} {f : α → Nat} {members : Members α} (sorted : Members.Sorted members)
    (key : String) (value : α) :
    ((members.put key value).map fun m => f m.2).sum + ((members.get? key).map f).getD 0
      = (members.map fun m => f m.2).sum + f value := by
  induction members with
  | nil => simp
  | cons m rest ih =>
    obtain ⟨k, v⟩ := m
    have ih := ih (List.pairwise_cons.mp sorted).2
    rw [Members.put]
    by_cases before : key < k
    · rw [if_pos before, Members.get?_of_lt sorted before]
      simp [Nat.add_comm]
    · rw [if_neg before, Members.get?_cons]
      by_cases own : key = k
      · subst own
        simp [Nat.add_comm, Nat.add_left_comm]
      · rw [if_neg own, if_neg (Ne.symm own), List.map_cons, List.sum_cons, List.map_cons,
          List.sum_cons]
        omega

lemma sum_increment {c : Counts} (canonical : c.Canonical) (name : String) :
    ((c.increment name).map Prod.snd).sum = (c.map Prod.snd).sum + 1 := by
  have sum : ((c.increment name).map Prod.snd).sum + ((c.get? name).map id).getD 0
      = (c.map Prod.snd).sum + (c.count name + 1) := sum_put (f := id) canonical.sorted name _
  rw [Option.map_id, id_eq, ← Counts.count] at sum
  omega

/-- An addition makes one registration more. -/
lemma size_add (canonical : r.Canonical) (i : Interest) :
    (r.perform (.add i)).2.size = r.size + 1 := by
  cases i with
  | anywhere name =>
    have sum := sum_increment canonical.anywhere name
    simp only [perform, addGlobal, size]
    omega
  | onNode nodeId name =>
    have grown := sum_increment (canonical.node nodeId) name
    have some : ((r.node nodeId).increment name).isEmpty = false := by
      unfold Counts.increment
      cases r.node nodeId with
      | nil => rfl
      | cons m rest =>
        rw [Members.put]
        split_ifs <;> rfl
    have sum := sum_put (f := fun c : Counts => (c.map Prod.snd).sum) canonical.sorted nodeId
      ((r.node nodeId).increment name)
    have before : ((r.perNode.get? nodeId).map fun c => (c.map Prod.snd).sum).getD 0
        = ((r.node nodeId).map Prod.snd).sum := by
      unfold node
      cases r.perNode.get? nodeId <;> rfl
    simp only [perform, add, setNode, some, Bool.false_eq_true, if_false, size]
    omega

lemma size_adds (operations : List Operation) (interests : List Interest) :
    (replay (operations ++ interests.map .add)).size
      = (replay operations).size + interests.length := by
  induction interests using List.reverseRecOn with
  | nil => simp
  | append_singleton interests i ih =>
    rw [List.map_append, List.map_singleton, ← List.append_assoc, replay_append,
      size_add (canonical_replay _), ih, List.length_append, List.length_singleton, Nat.add_assoc]

end Registrations

/-! ### The main statement -/

namespace Daemon

variable {σ : Type} {d : Daemon σ} {w : WatchSettings}

/-- The registrations of a daemon. -/
def registrations (d : Daemon σ) : Registrations := d.store.registrations

/-- The daemon with other registrations. -/
def withRegistrations (d : Daemon σ) (r : Registrations) : Daemon σ :=
  { d with timeline := { d.timeline with store := d.store.register fun _ => r } }

/-- A daemon that was just built has no registrations. -/
lemma registrations_build {settings : Settings} {token : Option String} {network : σ}
    (built : (build settings token network).1 = .ok d) : d.registrations = .empty := by
  unfold build at built
  split at built
  · cases built
  · split at built
    · cases built
    · cases built
      rfl

/-- How a daemon that watches, and its answer, stand to what it was before. -/
structure Watched (w : WatchSettings) (before : Daemon σ) (made : Nat) (after : Daemon σ) :
    Prop where
  /-- A count on a node grows by how often the list for the node has the name, -/
  onNode : ∀ nodeId name, after.registrations.count nodeId name
    = before.registrations.count nodeId name + (w.namesOn nodeId).count name
  /-- a count for any node by how often the list for any node has it. -/
  anywhere : ∀ name, after.registrations.globalCount name
    = before.registrations.globalCount name + w.anywhere.count name
  /-- Nothing else changes. -/
  others : after = before.withRegistrations after.registrations
  /-- The answer is how many registrations were made. -/
  size : after.registrations.size = before.registrations.size + made
  /-- There is room for every count if there is for all operations together. -/
  room : ∀ operations : List Operation, before.registrations = .replay operations →
    operations.length + made < Registrations.countLimit →
      ∀ i, after.registrations.countOf i < Registrations.countLimit
  /-- To remove every mention once, in whatever order, restores the tables. -/
  restored : ∀ interests : List Interest, interests.Perm w.interests →
    after.registrations.performAll (interests.map .remove) = before.registrations
  /-- From empty tables on, the names to fetch are the listed names in the order of their bytes, -/
  fetched : before.registrations = .empty →
    after.registrations.toFetch.Pairwise (fun a b => encode a < encode b) ∧
      ∀ name, name ∈ after.registrations.toFetch
        ↔ name ∈ w.anywhere ∨ ∃ nodeId, name ∈ w.namesOn nodeId
  /-- and no registration is made just when nothing is watched, and the tables then stay empty. -/
  idle : before.registrations = .empty →
    (made = 0 ↔ w.isEmpty = true) ∧ (w.isEmpty = true ↔ after.registrations.isEmpty = true)

/-- To watch is to register every mention once. -/
theorem watched {operations : List Operation} (reached : d.registrations = .replay operations)
    (sorted : Members.Sorted w.nodes) : Watched w d (d.watch w).1 (d.watch w).2.2 := by
  have adds : (d.watch w).2.2.registrations = .replay (operations ++ w.interests.map .add) := by
    rw [← Registrations.performAll_replay, ← reached, ← Registrations.watch_eq]
    rfl
  have grows (i : Interest) : (d.watch w).2.2.registrations.countOf i
      = d.registrations.countOf i + w.interests.count i := by
    rw [adds, reached, Registrations.countOf_replay, Registrations.countOf_replay, tally_adds]
  have onNode (nodeId name : String) : (d.watch w).2.2.registrations.count nodeId name
      = d.registrations.count nodeId name + (w.namesOn nodeId).count name :=
    WatchSettings.count_onNode sorted nodeId name ▸ grows (.onNode nodeId name)
  have anywhere (name : String) : (d.watch w).2.2.registrations.globalCount name
      = d.registrations.globalCount name + w.anywhere.count name :=
    WatchSettings.count_anywhere w name ▸ grows (.anywhere name)
  have canonical : (d.watch w).2.2.registrations.Canonical :=
    adds ▸ Registrations.canonical_replay _
  refine ⟨onNode, anywhere, rfl, ?_, fun all isAll few i => ?_, fun interests perm => ?_,
    fun fresh => ⟨?_, fun name => ?_⟩, fun fresh => ⟨WatchSettings.total_eq_zero, ?_⟩⟩
  · rw [adds, reached, Registrations.size_adds, WatchSettings.length_interests]
    rfl
  · have before := tally_le i all
    rw [← Registrations.countOf_replay, ← isAll] at before
    have mentioned : w.interests.count i ≤ w.interests.length := List.count_le_length
    rw [WatchSettings.length_interests] at mentioned
    rw [grows]
    exact Nat.lt_of_le_of_lt (Nat.add_le_add before mentioned) few
  · rw [adds, reached, ← Registrations.performAll_replay, Registrations.removes_adds _ perm]
  · exact (Registrations.increasing_toFetch _).imp encode_lt
  · rw [canonical.mem_toFetch_iff, Registrations.Wants, or_comm]
    have zero (nodeId : String) : Registrations.empty.count nodeId name = 0 := rfl
    have zero' : Registrations.empty.globalCount name = 0 := rfl
    simp only [onNode, anywhere, fresh, zero, zero', Nat.zero_add, List.count_pos_iff]
  · rw [canonical.isEmpty_iff, ← WatchSettings.total_eq_zero, ← WatchSettings.length_interests,
      List.length_eq_zero_iff, List.eq_nil_iff_forall_not_mem]
    refine forall_congr' fun i => ?_
    rw [grows, fresh, Registrations.countOf_empty, Nat.zero_add, List.count_eq_zero]

/-- Names that are listed twice, in one list and across lists, by a daemon that was just built. -/
theorem watched_twice :
    let w : WatchSettings :=
      { anywhere := ["c", "a", "c"], nodes := [("n1", ["b", "a"]), ("n2", []), ("n3", ["a", "a"])] }
    let settings : Settings := { Settings.ofBaseUrl "http://h/api" with watch := w }
    Members.Sorted w.nodes ∧ ∃ d : Daemon Unit, (build settings none ()).1 = .ok d ∧
      d.registrations = .replay [] ∧ Watched w d 7 (d.watch w).2.2 := by
  intro w settings
  have sorted : Members.Sorted w.nodes := by decide
  have isBuilt : (build settings none ()).1.toOption.isSome = true := by decide +kernel
  cases built : (build settings none ()).1 with
  | error =>
    rw [built] at isBuilt
    cases isBuilt
  | ok d =>
    have fresh : d.registrations = .replay [] := registrations_build built
    exact ⟨sorted, d, rfl, fresh, watched fresh sorted⟩

end Daemon

end MetricWatch
