import MetricWatch.Json.Value
import Mathlib.Tactic.Lemma
import Mathlib.Data.List.Forall2
import Mathlib.Data.List.Induction
import Mathlib.Data.List.Perm.Basic

/-!
# Maps in key order

`Members.put` and `Members.erase` keep the keys of a map in order. A map in order has no second
way to say the same: it is determined by the values at its keys.
-/

namespace MetricWatch.Json.Members

variable {α : Type}

/-! ### Entries and keys -/

lemma mem_of_get? {members : Members α} {key : String} {value : α}
    (h : get? members key = some value) : (key, value) ∈ members := by
  obtain ⟨m, found, rfl⟩ := Option.map_eq_some_iff.mp h
  obtain rfl : m.1 = key := by simpa using List.find?_some found
  exact List.mem_of_find?_eq_some found

/-- An entry of a map after a key was set is the new entry or was there before. -/
lemma mem_put {key : String} {value : α} {members : Members α} {e : String × α}
    (mem : e ∈ put key value members) : e = (key, value) ∨ e ∈ members := by
  induction members with
  | nil => exact .inl (List.mem_singleton.mp mem)
  | cons m rest ih =>
    obtain ⟨k, v⟩ := m
    unfold put at mem
    split at mem
    · exact List.mem_cons.mp mem
    · split at mem
      · rcases List.mem_cons.mp mem with own | later
        · exact .inl own
        · exact .inr (List.mem_cons_of_mem _ later)
      · rcases List.mem_cons.mp mem with first | later
        · exact .inr (first ▸ List.mem_cons_self)
        · exact (ih later).imp_right (List.mem_cons_of_mem _)

lemma mem_keys_put {key : String} {value : α} {members : Members α} {other : String} :
    other ∈ keys (put key value members) ↔ other = key ∨ other ∈ keys members := by
  induction members with
  | nil => simp [keys]
  | cons m rest ih =>
    obtain ⟨k, v⟩ := m
    simp only [keys] at ih ⊢
    unfold put
    split
    · simp
    · split
      · next same => simp [same]
      · simp only [List.map_cons, List.mem_cons, ih]
        exact or_left_comm

lemma mem_keys_ofList {entries : List (String × α)} {key : String} :
    key ∈ keys (ofList entries) ↔ key ∈ entries.map Prod.fst := by
  suffices all : ∀ members : Members α,
      key ∈ keys (entries.foldl (fun m e => put e.1 e.2 m) members)
        ↔ key ∈ keys members ∨ key ∈ entries.map Prod.fst by
    rw [ofList, all]
    simp [keys]
  induction entries with
  | nil => simp
  | cons e entries ih =>
    intro members
    rw [List.foldl_cons, ih, mem_keys_put, List.map_cons, List.mem_cons]
    rw [or_assoc, or_left_comm]

lemma mem_ofList {entries : List (String × α)} {e : String × α} (mem : e ∈ ofList entries) :
    e ∈ entries := by
  suffices all : ∀ members : Members α,
      e ∈ entries.foldl (fun m e => put e.1 e.2 m) members → e ∈ members ∨ e ∈ entries from
    (all [] mem).resolve_left List.not_mem_nil
  clear mem
  induction entries with
  | nil => exact fun _ => .inl
  | cons first entries ih =>
    intro members mem
    rcases ih _ mem with before | later
    · rcases mem_put before with rfl | before
      · exact .inr List.mem_cons_self
      · exact .inl before
    · exact .inr (List.mem_cons_of_mem _ later)

/-- Taking a key out changes the value at that key and at no other. -/
lemma get?_erase (key : String) (members : Members α) (other : String) :
    get? (erase key members) other = if key = other then none else get? members other := by
  induction members with
  | nil => simp [erase]
  | cons m rest ih =>
    obtain ⟨k, v⟩ := m
    simp only [erase] at ih ⊢
    by_cases own : k = key
    · subst own
      simp only [ne_eq, not_true, decide_false, Bool.false_eq_true, not_false_eq_true,
        List.filter_cons_of_neg, ih, get?_cons]
      split <;> rfl
    · simp only [ne_eq, own, not_false_eq_true, decide_true, List.filter_cons_of_pos, get?_cons, ih]
      by_cases here : k = other
      · subst here
        simp [Ne.symm own]
      · simp [here]

/-! ### Order -/

/-- Whether the keys of a map are in strictly increasing order. -/
def Sorted (members : Members α) : Prop := members.Pairwise fun m n => m.1 < n.1

instance (members : Members α) : Decidable (Sorted members) :=
  inferInstanceAs (Decidable (members.Pairwise fun m n => m.1 < n.1))

@[simp] lemma sorted_nil : Sorted ([] : Members α) := .nil

lemma sorted_put {members : Members α} (sorted : Sorted members) (key : String) (value : α) :
    Sorted (put key value members) := by
  induction members with
  | nil => exact List.pairwise_singleton _ _
  | cons m rest ih =>
    obtain ⟨k, v⟩ := m
    obtain ⟨above, sortedRest⟩ := List.pairwise_cons.mp sorted
    unfold put
    split
    · next before =>
      refine List.pairwise_cons.mpr ⟨?_, sorted⟩
      intro n mem
      rcases List.mem_cons.mp mem with rfl | mem
      · exact before
      · exact String.lt_trans before (above n mem)
    · next notBefore =>
      split
      · next same => exact List.pairwise_cons.mpr ⟨same ▸ above, sortedRest⟩
      · next other =>
        refine List.pairwise_cons.mpr ⟨?_, ih sortedRest⟩
        intro n mem
        rcases mem_keys_put.mp (List.mem_map_of_mem mem) with new | old
        · rw [new]
          have notAfter : k ≤ key := String.not_lt.mp notBefore
          exact String.not_le.mp fun le => other (String.le_antisymm le notAfter)
        · obtain ⟨n', mem', same⟩ := List.mem_map.mp old
          rw [← same]
          exact above n' mem'

lemma sorted_erase {members : Members α} (sorted : Sorted members) (key : String) :
    Sorted (erase key members) := sorted.filter _

/-- A key above all others is set at the end. -/
lemma put_of_above {members : Members α} {key : String} (above : ∀ m ∈ members, m.1 < key)
    (value : α) : put key value members = members ++ [(key, value)] := by
  induction members with
  | nil => rfl
  | cons m rest ih =>
    obtain ⟨k, v⟩ := m
    have below : k < key := above (k, v) List.mem_cons_self
    rw [put, if_neg (String.lt_asymm below), if_neg (String.ne_of_lt below).symm,
      ih fun m mem => above m (List.mem_cons_of_mem _ mem), List.cons_append]

/-- A map in order is that of its entries. -/
lemma ofList_of_sorted {members : Members α} (sorted : Sorted members) :
    ofList members = members := by
  suffices all : ∀ front : Members α, Sorted (front ++ members) →
      members.foldl (fun m e => put e.1 e.2 m) front = front ++ members from all [] sorted
  clear sorted
  induction members with
  | nil => exact fun front _ => (List.append_nil front).symm
  | cons m rest ih =>
    intro front sorted
    have above : ∀ n ∈ front, n.1 < m.1 := fun n mem =>
      (List.pairwise_append.mp sorted).2.2 n mem m List.mem_cons_self
    rw [List.foldl_cons, put_of_above above, ih, List.append_assoc, List.singleton_append]
    rwa [List.append_assoc, List.singleton_append]

lemma sorted_ofList (entries : List (String × α)) : Sorted (ofList entries) := by
  suffices all : ∀ members : Members α, Sorted members →
      Sorted (entries.foldl (fun m e => put e.1 e.2 m) members) from all [] sorted_nil
  induction entries with
  | nil => exact fun _ sorted => sorted
  | cons e entries ih => exact fun members sorted => ih _ (sorted_put sorted e.1 e.2)

lemma nodup_of_sorted {members : Members α} (sorted : Sorted members) : (keys members).Nodup :=
  List.pairwise_map.mpr (sorted.imp fun before => String.ne_of_lt before)

/-- Where keys differ, every entry is found by its key. -/
lemma get?_of_mem_of_nodup {members : Members α} (distinct : (keys members).Nodup) {key : String}
    {value : α} (mem : (key, value) ∈ members) : get? members key = some value := by
  induction members with
  | nil => cases mem
  | cons m rest ih =>
    obtain ⟨k, v⟩ := m
    obtain ⟨alone, distinct⟩ := List.nodup_cons.mp distinct
    rw [get?_cons]
    rcases List.mem_cons.mp mem with own | later
    · obtain ⟨rfl, rfl⟩ := Prod.mk.inj own
      exact if_pos rfl
    · have other : k ≠ key := by
        rintro rfl
        exact alone (List.mem_map.mpr ⟨_, later, rfl⟩)
      rw [if_neg other, ih distinct later]

lemma get?_of_mem {members : Members α} (sorted : Sorted members) {key : String} {value : α}
    (mem : (key, value) ∈ members) : get? members key = some value :=
  get?_of_mem_of_nodup (nodup_of_sorted sorted) mem

/-- Below its first key a map in order has no values. -/
lemma get?_of_lt {m : String × α} {rest : Members α} (sorted : Sorted (m :: rest)) {key : String}
    (below : key < m.1) : get? (m :: rest) key = none := by
  cases found : get? (m :: rest) key with
  | none => rfl
  | some value =>
    rcases List.mem_cons.mp (mem_of_get? found) with own | mem
    · rw [← own] at below
      exact absurd below (String.lt_irrefl _)
    · have above := (List.pairwise_cons.mp sorted).1 _ mem
      exact absurd (String.lt_trans below above) (String.lt_irrefl _)

/-- The first key of a map in order stands nowhere else. -/
lemma get?_rest {m : String × α} {rest : Members α} (sorted : Sorted (m :: rest)) :
    get? rest m.1 = none := by
  cases found : get? rest m.1 with
  | none => rfl
  | some value =>
    have above := (List.pairwise_cons.mp sorted).1 _ (mem_of_get? found)
    exact absurd above (String.lt_irrefl _)

/-- Maps in order that have the same values are the same. -/
theorem Sorted.ext {members others : Members α} (sorted : Sorted members)
    (sorted' : Sorted others) (same : ∀ key, get? members key = get? others key) :
    members = others := by
  induction members generalizing others with
  | nil =>
    cases others with
    | nil => rfl
    | cons n others =>
      have first := same n.1
      rw [get?_nil, get?_of_mem sorted' List.mem_cons_self] at first
      cases first
  | cons m rest ih =>
    cases others with
    | nil =>
      have first := same m.1
      rw [get?_nil, get?_of_mem sorted List.mem_cons_self] at first
      cases first
    | cons n others =>
      -- Neither map has a key below the first of the other, so they start alike.
      have own : get? (m :: rest) m.1 = some m.2 := get?_of_mem sorted List.mem_cons_self
      have own' : get? (n :: others) n.1 = some n.2 := get?_of_mem sorted' List.mem_cons_self
      have notBelow : ¬ m.1 < n.1 := by
        intro below
        rw [same, get?_of_lt sorted' below] at own
        cases own
      have notAbove : ¬ n.1 < m.1 := by
        intro above
        rw [← same, get?_of_lt sorted above] at own'
        cases own'
      have sameKey : m.1 = n.1 :=
        String.le_antisymm (String.not_lt.mp notAbove) (String.not_lt.mp notBelow)
      have sameValue : m.2 = n.2 := by
        rw [same, sameKey, own'] at own
        exact (Option.some.inj own).symm
      obtain rfl : m = n := Prod.ext sameKey sameValue
      have sameRest : ∀ key, get? rest key = get? others key := by
        intro key
        by_cases first : m.1 = key
        · rw [← first, get?_rest sorted, get?_rest sorted']
        · have later := same key
          rwa [get?_cons, get?_cons, if_neg first, if_neg first] at later
      rw [ih (List.pairwise_cons.mp sorted).2 (List.pairwise_cons.mp sorted').2 sameRest]

/-! ### Entries in any order -/

/-- A new key is set by adding an entry. -/
lemma perm_put {members : Members α} {key : String} (fresh : key ∉ keys members) (value : α) :
    (put key value members).Perm ((key, value) :: members) := by
  induction members with
  | nil => exact .refl _
  | cons m rest ih =>
    obtain ⟨k, v⟩ := m
    have fresh' : key ∉ keys rest := fun known => fresh (List.mem_cons_of_mem _ known)
    have other : ¬ key = k := fun same => fresh (same ▸ List.mem_cons_self)
    by_cases before : key < k
    · rw [put, if_pos before]
    · rw [put, if_neg before, if_neg other]
      exact ((ih fresh').cons (k, v)).trans (.swap ..)

/-- Entries with different keys make up their map. -/
lemma perm_ofList {entries : List (String × α)} (distinct : (entries.map Prod.fst).Nodup) :
    (ofList entries).Perm entries := by
  suffices all : ∀ members : Members α, (∀ e ∈ entries, e.1 ∉ keys members) →
      (entries.foldl (fun m e => put e.1 e.2 m) members).Perm (entries ++ members) by
    have perm := all [] fun e _ => List.not_mem_nil
    rwa [List.append_nil] at perm
  induction entries with
  | nil => exact fun members _ => .refl _
  | cons e entries ih =>
    intro members fresh
    obtain ⟨alone, distinct⟩ := List.nodup_cons.mp distinct
    have later : ∀ e' ∈ entries, e'.1 ∉ keys (put e.1 e.2 members) := by
      intro e' mem known
      rcases mem_keys_put.mp known with same | before
      · exact alone (same ▸ List.mem_map_of_mem mem)
      · exact fresh e' (List.mem_cons_of_mem _ mem) before
    refine (ih distinct _ later).trans ?_
    refine ((perm_put (fresh e List.mem_cons_self) e.2).append_left entries).trans ?_
    exact List.perm_middle

/-- The map of entries with different keys has what the entries have. -/
lemma get?_ofList {entries : List (String × α)} (distinct : (entries.map Prod.fst).Nodup)
    (key : String) : get? (ofList entries) key = get? entries key := by
  have perm := perm_ofList distinct
  have distinct' : (keys (ofList entries)).Nodup := nodup_of_sorted (sorted_ofList entries)
  cases found : get? entries key with
  | none =>
    cases found' : get? (ofList entries) key with
    | none => rfl
    | some value =>
      have mem := perm.subset (mem_of_get? found')
      rw [get?_of_mem_of_nodup distinct mem] at found
      cases found
  | some value => exact get?_of_mem_of_nodup distinct' (perm.symm.subset (mem_of_get? found))

/-- The map of entries has the last that they have for a key. -/
lemma get?_ofList_last (entries : List (String × α)) (key : String) :
    get? (ofList entries) key = ((entries.filter fun e => e.1 = key).getLast?).map Prod.snd := by
  induction entries using List.reverseRecOn with
  | nil => rfl
  | append_singleton entries e ih =>
    have later : ofList (entries ++ [e]) = put e.1 e.2 (ofList entries) := List.foldl_append
    rw [later, get?_put, ih]
    by_cases own : e.1 = key <;> simp [own]

/-! ### Entries side by side -/

variable {β : Type} {R : α → β → Prop}

/-- Whether entries have the same keys one by one, and related values. -/
def Alongside (R : α → β → Prop) : Members α → Members β → Prop :=
  List.Forall₂ fun m n => m.1 = n.1 ∧ R m.2 n.2

namespace Alongside

variable {members : Members α} {others : Members β}

lemma put (along : Alongside R members others) {key : String} {a : α} {b : β} (related : R a b) :
    Alongside R (members.put key a) (others.put key b) := by
  induction along with
  | nil => exact .cons ⟨rfl, related⟩ .nil
  | @cons m n members others first rest ih =>
    obtain ⟨k, v⟩ := m
    obtain ⟨k', v'⟩ := n
    obtain ⟨rfl, related'⟩ : k = k' ∧ R v v' := first
    unfold Members.put
    split
    · exact .cons ⟨rfl, related⟩ (.cons ⟨rfl, related'⟩ rest)
    · split
      · exact .cons ⟨rfl, related⟩ rest
      · exact .cons ⟨rfl, related'⟩ ih

lemma ofList {entries : List (String × α)} {entries' : List (String × β)}
    (along : Alongside R entries entries') :
    Alongside R (Members.ofList entries) (Members.ofList entries') := by
  suffices all : ∀ (members : Members α) (others : Members β), Alongside R members others →
      Alongside R (entries.foldl (fun m e => Members.put e.1 e.2 m) members)
        (entries'.foldl (fun m e => Members.put e.1 e.2 m) others) from all [] [] .nil
  induction along with
  | nil => exact fun _ _ done => done
  | @cons m n entries entries' first rest ih =>
    obtain ⟨key, a⟩ := m
    obtain ⟨key', b⟩ := n
    obtain ⟨rfl, related⟩ : key = key' ∧ R a b := first
    exact fun members others done => ih _ _ (done.put related)

lemma keys (along : Alongside R members others) : Members.keys members = Members.keys others := by
  induction along with
  | nil => rfl
  | cons first _ ih => exact congrArg₂ _ first.1 ih

lemma sorted (along : Alongside R members others) (sorted : Sorted members) : Sorted others := by
  have keys : (Members.keys members).Pairwise (· < ·) := List.pairwise_map.mpr sorted
  rw [along.keys] at keys
  exact List.pairwise_map.mp keys

lemma exists_of_each (each : ∀ m ∈ members, ∃ b, R m.2 b) :
    ∃ others, Alongside R members others := by
  induction members with
  | nil => exact ⟨[], .nil⟩
  | cons m members ih =>
    obtain ⟨b, related⟩ := each m List.mem_cons_self
    obtain ⟨others, along⟩ := ih fun m mem => each m (List.mem_cons_of_mem _ mem)
    exact ⟨(m.1, b) :: others, .cons ⟨rfl, related⟩ along⟩

lemma unique (functional : ∀ a b c, R a b → R a c → b = c) {others' : Members β}
    (along : Alongside R members others) (along' : Alongside R members others') :
    others = others' := by
  induction along generalizing others' with
  | nil =>
    cases along'
    rfl
  | cons first _ ih =>
    cases along' with
    | cons first' along' =>
      rw [ih along', Prod.ext (first.1.symm.trans first'.1) (functional _ _ _ first.2 first'.2)]

lemma exists_of_mem (along : Alongside R members others) {m : String × α} (mem : m ∈ members) :
    ∃ b, R m.2 b := by
  induction along with
  | nil => cases mem
  | cons first _ ih =>
    rcases List.mem_cons.mp mem with rfl | mem
    · exact ⟨_, first.2⟩
    · exact ih mem

/-- Side by side, the values at a key are related or missing on both sides. -/
lemma get? (along : Alongside R members others) (key : String) :
    Option.Rel R (Members.get? members key) (Members.get? others key) := by
  induction along with
  | nil => exact .none
  | @cons m n members others first _ ih =>
    obtain ⟨k, v⟩ := m
    obtain ⟨k', v'⟩ := n
    obtain ⟨rfl, related⟩ : k = k' ∧ R v v' := first
    rw [get?_cons, get?_cons]
    split
    · exact .some related
    · exact ih

lemma get?_right (along : Alongside R members others) {key : String} {a : α}
    (found : Members.get? members key = some a) :
    ∃ b, Members.get? others key = some b ∧ R a b := by
  have same := along.get? key
  rw [found] at same
  generalize Members.get? others key = found' at same
  cases same with
  | some related => exact ⟨_, rfl, related⟩

lemma get?_left (along : Alongside R members others) {key : String} {b : β}
    (found : Members.get? others key = some b) :
    ∃ a, Members.get? members key = some a ∧ R a b := by
  have same := along.get? key
  rw [found] at same
  generalize Members.get? members key = found' at same
  cases same with
  | some related => exact ⟨_, rfl, related⟩

end Alongside

end MetricWatch.Json.Members
