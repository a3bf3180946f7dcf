import MetricWatch.Proofs.Counting
import MetricWatch.Proofs.Registrations
import MetricWatch.Proofs.Text.ByteOrder
import Mathlib.Data.List.Sort
import Mathlib.Data.String.Basic

/-!
# Wanted names

A name is wanted while it is registered on some node or for any node. The names to fetch are the
wanted names in the order of their bytes, each once, in whatever order and on whichever nodes the
tables hold them. An operation changes them only if its name was not wanted before, or is not wanted
afterwards, and then by this name. The main statement is `Registrations.tracked`.
-/

namespace MetricWatch

open Json (Members)
open Text.Utf8 (encode encode_lt_iff)

/-- The name that an interest is in. -/
def Interest.name : Interest → String
  | .onNode _ name => name
  | .anywhere name => name

namespace Registrations

variable {r r' : Registrations} {name : String} {i : Interest} {o : Operation}

/-- Whether a name is registered on some node or for any node. -/
def Wants (r : Registrations) (name : String) : Prop :=
  (∃ nodeId, 0 < r.count nodeId name) ∨ 0 < r.globalCount name

lemma wants_iff : r.Wants name ↔ ∃ i : Interest, i.name = name ∧ 0 < r.countOf i := by
  constructor
  · rintro (⟨nodeId, onNode⟩ | anywhere)
    · exact ⟨.onNode nodeId name, rfl, onNode⟩
    · exact ⟨.anywhere name, rfl, anywhere⟩
  · rintro ⟨i, rfl, registered⟩
    cases i with
    | onNode nodeId name => exact .inl ⟨nodeId, registered⟩
    | anywhere name => exact .inr registered

/-! ### Names to fetch -/

lemma increasing_toFetch (r : Registrations) : r.toFetch.Pairwise (· < ·) :=
  List.pairwise_map.mpr (Members.sorted_ofList _)

lemma nodup_toFetch (r : Registrations) : r.toFetch.Nodup :=
  r.increasing_toFetch.imp fun before => String.ne_of_lt before

lemma toFetch_ext (same : ∀ name, name ∈ r.toFetch ↔ name ∈ r'.toFetch) :
    r.toFetch = r'.toFetch :=
  r.increasing_toFetch.eq_of_mem_iff r'.increasing_toFetch same

/-- The names in the tables of the nodes. -/
def namesOn (nodes : Members Counts) : List String := nodes.flatMap fun n => n.2.keys

lemma mem_toFetch_iff_names :
    name ∈ r.toFetch ↔ name ∈ namesOn r.perNode ∨ name ∈ Members.keys r.anywhere := by
  simp only [mem_toFetch, namesOn, List.mem_flatMap]

namespace Canonical

lemma count_of_mem_keys {c : Counts} (canonical : c.Canonical) (mem : name ∈ Members.keys c) :
    0 < c.count name := by
  obtain ⟨⟨name, n⟩, isEntry, rfl⟩ := List.mem_map.mp mem
  rw [Counts.count, Members.get?_of_mem canonical.sorted isEntry]
  exact canonical.positive _ isEntry

/-- Canonical tables hold only names that are wanted. -/
lemma mem_toFetch_iff (canonical : r.Canonical) : name ∈ r.toFetch ↔ r.Wants name := by
  constructor
  · intro mem
    rcases mem_toFetch.mp mem with ⟨⟨nodeId, counts⟩, onNode, mem⟩ | mem
    · have isNode : r.node nodeId = counts := by
        rw [Registrations.node, Members.get?_of_mem canonical.sorted onNode]
        rfl
      refine .inl ⟨nodeId, ?_⟩
      rw [count, isNode]
      exact count_of_mem_keys (canonical.nodes _ onNode).2 mem
    · exact .inr (count_of_mem_keys canonical.anywhere mem)
  · rintro (⟨nodeId, onNode⟩ | anywhere)
    · exact mem_toFetch_of_count onNode
    · exact mem_toFetch_of_globalCount anywhere

lemma toFetch_eq_iff (canonical : r.Canonical) (canonical' : r'.Canonical) :
    r.toFetch = r'.toFetch ↔ ∀ name, r.Wants name ↔ r'.Wants name := by
  constructor
  · intro same name
    rw [← canonical.mem_toFetch_iff, ← canonical'.mem_toFetch_iff, same]
  · intro same
    apply toFetch_ext
    intro name
    rw [canonical.mem_toFetch_iff, canonical'.mem_toFetch_iff, same]

end Canonical

/-! ### Tables in another order -/

/-- Whether tables have the same entries, in whatever order: nodes, names on each node and names for
any node. -/
structure Rearranged (r r' : Registrations) : Prop where
  nodes : ∃ nodes : Members Counts,
    r.perNode.Perm nodes ∧ Members.Alongside List.Perm nodes r'.perNode
  anywhere : r.anywhere.Perm r'.anywhere

lemma perm_namesOn {nodes nodes' : Members Counts}
    (along : Members.Alongside List.Perm nodes nodes') :
    (namesOn nodes).Perm (namesOn nodes') := by
  induction along with
  | nil => exact .refl _
  | cons first _ ih => exact (first.2.map Prod.fst).append ih

lemma Rearranged.toFetch (rearranged : Rearranged r r') : r.toFetch = r'.toFetch := by
  obtain ⟨nodes, reordered, along⟩ := rearranged.nodes
  have perm : (namesOn r.perNode).Perm (namesOn r'.perNode) :=
    (reordered.flatMap_right _).trans (perm_namesOn along)
  have permAnywhere : (Members.keys r.anywhere).Perm (Members.keys r'.anywhere) :=
    rearranged.anywhere.map Prod.fst
  apply toFetch_ext
  intro name
  rw [mem_toFetch_iff_names, mem_toFetch_iff_names, perm.mem_iff, permAnywhere.mem_iff]

/-! ### One operation -/

/-- An operation leaves other names as they were. -/
lemma wants_perform_other (other : o.interest.name ≠ name) :
    (r.perform o).2.Wants name ↔ r.Wants name := by
  have same (i : Interest) (own : i.name = name) :
      (r.perform o).2.countOf i = r.countOf i := by
    rw [countOf_perform, if_neg]
    rintro rfl
    exact other own
  rw [wants_iff, wants_iff]
  constructor
  · rintro ⟨i, own, registered⟩
    exact ⟨i, own, same i own ▸ registered⟩
  · rintro ⟨i, own, registered⟩
    exact ⟨i, own, (same i own).symm ▸ registered⟩

lemma wants_add (r : Registrations) (i : Interest) : (r.perform (.add i)).2.Wants i.name := by
  refine wants_iff.mpr ⟨i, rfl, ?_⟩
  rw [countOf_perform, Operation.interest, if_pos rfl]
  exact Nat.succ_pos _

lemma wants_of_wants_remove (wants : (r.perform (.remove i)).2.Wants name) : r.Wants name := by
  obtain ⟨j, own, registered⟩ := wants_iff.mp wants
  refine wants_iff.mpr ⟨j, own, Nat.lt_of_lt_of_le registered ?_⟩
  rw [countOf_perform]
  split
  · exact Nat.sub_le _ 1
  · exact Nat.le_refl _

namespace Canonical

/-- An operation changes the names to fetch exactly if it changes whether its name is wanted. -/
lemma toFetch_perform_eq_iff (canonical : r.Canonical) (o : Operation) :
    (r.perform o).2.toFetch = r.toFetch
      ↔ ((r.perform o).2.Wants o.interest.name ↔ r.Wants o.interest.name) := by
  rw [(canonical.perform o).toFetch_eq_iff canonical]
  constructor
  · exact fun same => same _
  · intro own name
    by_cases same : o.interest.name = name
    · rw [← same, own]
    · exact wants_perform_other same

lemma perm_toFetch_add (canonical : r.Canonical) (new : ¬ r.Wants i.name) :
    (r.perform (.add i)).2.toFetch.Perm (i.name :: r.toFetch) := by
  have fresh : i.name ∉ r.toFetch := canonical.mem_toFetch_iff.not.mpr new
  rw [List.perm_ext_iff_of_nodup (nodup_toFetch _) (List.nodup_cons.mpr ⟨fresh, nodup_toFetch r⟩)]
  intro name
  rw [List.mem_cons, (canonical.perform _).mem_toFetch_iff, canonical.mem_toFetch_iff]
  by_cases own : i.name = name
  · subst own
    exact iff_of_true (wants_add r i) (.inl rfl)
  · have other : (Operation.add i).interest.name ≠ name := own
    rw [wants_perform_other other, or_iff_right (Ne.symm own)]

lemma toFetch_remove (canonical : r.Canonical)
    (gone : ¬ (r.perform (.remove i)).2.Wants i.name) :
    (r.perform (.remove i)).2.toFetch = r.toFetch.erase i.name := by
  have increasing : (r.toFetch.erase i.name).Pairwise (· < ·) :=
    r.increasing_toFetch.sublist List.erase_sublist
  refine (increasing_toFetch _).eq_of_mem_iff increasing fun name => ?_
  rw [(nodup_toFetch r).mem_erase_iff, (canonical.perform _).mem_toFetch_iff,
    canonical.mem_toFetch_iff]
  by_cases own : i.name = name
  · subst own
    exact iff_of_false gone fun other => other.1 rfl
  · have other : (Operation.remove i).interest.name ≠ name := own
    rw [wants_perform_other other, and_iff_right (Ne.symm own)]

end Canonical

/-! ### The main statement -/

/-- How the names to fetch stand to what is registered after operations. -/
structure Tracked (operations : List Operation) : Prop where
  /-- The names are in strictly increasing order of their bytes, -/
  increasing : (replay operations).toFetch.Pairwise fun a b => encode a < encode b
  /-- and they are the wanted names. -/
  mem_iff : ∀ name, name ∈ (replay operations).toFetch
    ↔ (∃ nodeId, 0 < (replay operations).count nodeId name) ∨
      0 < (replay operations).globalCount name
  /-- The order in which the tables give their entries does not matter, -/
  rearranged : ∀ r, Rearranged (replay operations) r → r.toFetch = (replay operations).toFetch
  /-- nor does on which nodes names are wanted, or how often. -/
  eq_iff : ∀ others, (replay operations).toFetch = (replay others).toFetch
    ↔ ∀ name, (replay operations).Wants name ↔ (replay others).Wants name
  /-- To add a name that is wanted changes nothing, -/
  add_wanted : ∀ i : Interest, (replay operations).Wants i.name →
    (replay (operations ++ [.add i])).toFetch = (replay operations).toFetch
  /-- to add another one puts in this name alone, -/
  add_new : ∀ i : Interest, ¬ (replay operations).Wants i.name →
    (replay (operations ++ [.add i])).toFetch.Perm (i.name :: (replay operations).toFetch)
  /-- to remove a name that is wanted still changes nothing, -/
  remove_wanted : ∀ i : Interest, (replay (operations ++ [.remove i])).Wants i.name →
    (replay (operations ++ [.remove i])).toFetch = (replay operations).toFetch
  /-- and to remove another one takes out this name alone, if it is there. -/
  remove_last : ∀ i : Interest, ¬ (replay (operations ++ [.remove i])).Wants i.name →
    (replay (operations ++ [.remove i])).toFetch = (replay operations).toFetch.erase i.name
  /-- So an operation changes the names exactly if it changes whether its name is wanted. -/
  changed_iff : ∀ o : Operation,
    (replay (operations ++ [o])).toFetch ≠ (replay operations).toFetch
      ↔ ¬ ((replay (operations ++ [o])).Wants o.interest.name
        ↔ (replay operations).Wants o.interest.name)

/-- The names to fetch track the registrations along every history. -/
theorem tracked (operations : List Operation) : Tracked operations where
  increasing := (increasing_toFetch _).imp encode_lt_iff.mpr
  mem_iff _ := (canonical_replay operations).mem_toFetch_iff
  rearranged _ rearranged := rearranged.toFetch.symm
  eq_iff others := (canonical_replay operations).toFetch_eq_iff (canonical_replay others)
  add_wanted i wanted := by
    rw [replay_append, (canonical_replay operations).toFetch_perform_eq_iff]
    exact iff_of_true (wants_add _ i) wanted
  add_new i new := by
    rw [replay_append]
    exact (canonical_replay operations).perm_toFetch_add new
  remove_wanted i wanted := by
    rw [replay_append] at wanted ⊢
    rw [(canonical_replay operations).toFetch_perform_eq_iff]
    exact iff_of_true wanted (wants_of_wants_remove wanted)
  remove_last i gone := by
    rw [replay_append] at gone ⊢
    exact (canonical_replay operations).toFetch_remove gone
  changed_iff o := by
    rw [replay_append, Ne, (canonical_replay operations).toFetch_perform_eq_iff]

end Registrations

end MetricWatch
