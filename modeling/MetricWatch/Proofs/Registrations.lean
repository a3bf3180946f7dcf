import MetricWatch.Watch.Registrations
import MetricWatch.Proofs.Maps

/-!
# Names to fetch

The names that are fetched are the keys of the tables. A name with a positive count is among them.
-/

namespace MetricWatch

open Json (Members)

lemma Counts.mem_keys_of_count {c : Counts} {name : String} (h : 0 < c.count name) :
    name ∈ Members.keys c := by
  unfold count at h
  cases found : Members.get? c name with
  | none =>
    rw [found] at h
    cases h
  | some n => exact List.mem_map_of_mem (Members.mem_of_get? found)

namespace Registrations

variable {r : Registrations} {name : String}

lemma mem_toFetch : name ∈ r.toFetch
    ↔ (∃ n ∈ r.perNode, name ∈ Members.keys n.2) ∨ name ∈ Members.keys r.anywhere := by
  unfold toFetch
  rw [Members.mem_keys_ofList]
  simp

/-- Whatever is registered on a node is fetched. -/
lemma mem_toFetch_of_count {nodeId : String} (h : 0 < r.count nodeId name) :
    name ∈ r.toFetch := by
  have isKey := Counts.mem_keys_of_count h
  unfold node at isKey
  cases found : r.perNode.get? nodeId with
  | none =>
    rw [found] at isKey
    cases isKey
  | some counts =>
    rw [found] at isKey
    exact mem_toFetch.mpr (.inl ⟨_, Members.mem_of_get? found, isKey⟩)

/-- Whatever is registered for any node is fetched. -/
lemma mem_toFetch_of_globalCount (h : 0 < r.globalCount name) : name ∈ r.toFetch :=
  mem_toFetch.mpr (.inr (Counts.mem_keys_of_count h))

end Registrations

end MetricWatch
