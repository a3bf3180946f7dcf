import MetricWatch.Store.Channel
import MetricWatch.Proofs.Maps
import Mathlib.Algebra.Group.Nat.Defs
import Mathlib.Order.Bounds.Defs

/-!
# What subscribers get

A subscriber has taken or lost what was sent up to its place, and is behind by what was sent since.
As long as all this can still be taken it gets the oldest of it. Otherwise it is told how much of it
is lost: all but the latest events, as many as the capacity. So its receipts account for all that
was sent up to its place.
-/

namespace MetricWatch

namespace Channel

variable {α : Type} {c : Channel α} {id other : String} {past behind taken left : List α}
  {receipt : Receipt α} {capacity : Nat}

/-! ### Capacity -/

/-- The powers of two that are not less than a number. -/
def powersFrom (n : Nat) : Set Nat := {c | (∃ e, c = 2 ^ e) ∧ n ≤ c}

lemma isLeast_two_pow {n e : Nat} (small : ∀ e' < e, 2 ^ e' < n) (reached : n ≤ 2 ^ e) :
    IsLeast (powersFrom n) (2 ^ e) := by
  refine ⟨⟨⟨e, rfl⟩, reached⟩, ?_⟩
  rintro _ ⟨⟨e', rfl⟩, isEnough⟩
  apply Nat.pow_le_pow_right Nat.two_pos
  by_contra below
  exact absurd (small e' (Nat.lt_of_not_le below)) (Nat.not_lt_of_le isEnough)

/-- Doubling a power of two, below which all are too small, ends at the least that is not. -/
lemma isLeast_roundUp {n e more : Nat} (small : ∀ e' < e, 2 ^ e' < n)
    (enough : n ≤ 2 ^ e + more) : IsLeast (powersFrom n) (roundUp n (2 ^ e) more) := by
  induction more generalizing e with
  | zero => exact isLeast_two_pow small enough
  | succ more ih =>
    rw [roundUp]
    split
    next reached => exact isLeast_two_pow small reached
    next short =>
      have doubled : 2 * 2 ^ e = 2 ^ (e + 1) := (Nat.pow_succ').symm
      have positive : 0 < 2 ^ e := Nat.two_pow_pos e
      rw [doubled]
      refine ih (fun e' below => ?_) (by omega)
      rcases Nat.lt_succ_iff_lt_or_eq.mp below with below | rfl
      · exact small e' below
      · exact Nat.lt_of_not_le short

/-- A channel has the least power of two that is not less than the capacity asked for. -/
lemma isLeast_capacity (n : Nat) : IsLeast (powersFrom n) (ofCapacity (α := α) n).capacity :=
  isLeast_roundUp (e := 0) nofun (Nat.le_add_left ..)

/-! ### Places -/

/-- Taking events sends none. -/
lemma receive_eq {c' : Channel α} (received : c.receive id = some (receipt, c')) :
    ∃ next, c' = { c with places := c.places.put id next } := by
  simp only [receive, Option.map_eq_some_iff, Prod.mk.injEq] at received
  obtain ⟨_, _, _, rfl⟩ := received
  exact ⟨_, rfl⟩

/-- What a subscriber has taken or lost, and what it is behind by, latest first. -/
structure Holds (c : Channel α) (id : String) (past behind : List α) : Prop where
  sent : c.sent = behind ++ past
  place : c.places.get? id = some past.length

lemma holds_subscribe (c : Channel α) (id : String) : (c.subscribe id).Holds id c.sent [] :=
  ⟨rfl, by rw [subscribe, Json.Members.get?_put, if_pos rfl, length]⟩

/-! ### Receipts -/

/-- What a subscriber gets who is behind by some events, which of them it has taken or lost then,
and which are left. -/
inductive Next (capacity : Nat) : List α → Receipt α → List α → List α → Prop
  | event {left : List α} (a : α) (few : left.length < capacity) :
      Next capacity (left ++ [a]) (.event a) [a] left
  | lagged {left missed : List α} (full : left.length = capacity) (some_ : missed ≠ []) :
      Next capacity (left ++ missed) (.lagged missed.length) missed left
  | none : Next capacity [] .none [] []

lemma Next.behind_eq (next : Next capacity behind receipt taken left) : behind = left ++ taken := by
  cases next <;> rfl

/-- A subscriber takes or loses the oldest of what it is behind by. -/
lemma Holds.take (h : c.Holds id past behind) :
    ∃ receipt taken left, Next c.capacity behind receipt taken left ∧
      c.take past.length = (receipt, (taken ++ past).length) := by
  have length : c.length = behind.length + past.length := by
    rw [Channel.length, h.sent, List.length_append]
  rcases Nat.lt_or_ge c.capacity behind.length with far | near
  · have kept : (behind.take c.capacity).length = c.capacity :=
      List.length_take_of_le (Nat.le_of_lt far)
    have lost : (behind.drop c.capacity).length = behind.length - c.capacity := List.length_drop
    have next : Next c.capacity (behind.take c.capacity ++ behind.drop c.capacity)
        (.lagged (behind.drop c.capacity).length) (behind.drop c.capacity)
        (behind.take c.capacity) :=
      .lagged kept (by rw [← List.length_pos_iff]; omega)
    rw [List.take_append_drop] at next
    refine ⟨_, _, _, next, ?_⟩
    have overwritten : past.length < c.length - c.capacity := by omega
    rw [Channel.take, if_pos overwritten, List.length_append]
    congr 1
    · congr 1
      omega
    · omega
  · have kept : ¬ past.length < c.length - c.capacity := by omega
    rw [Channel.take, if_neg kept, eventAt?, length, h.sent]
    rcases List.eq_nil_or_concat' behind with rfl | ⟨left, a, rfl⟩
    · refine ⟨_, _, _, .none, ?_⟩
      simp
    · rw [List.length_append, List.length_singleton] at near
      refine ⟨_, _, _, .event a near, ?_⟩
      simp

/-- A subscriber gets what is next and goes on behind it. -/
lemma Holds.receive (h : c.Holds id past behind) :
    ∃ receipt taken left c', Next c.capacity behind receipt taken left ∧
      c.receive id = some (receipt, c') ∧ c'.Holds id (taken ++ past) left := by
  obtain ⟨receipt, taken, left, next, took⟩ := h.take
  have sent : c.sent = left ++ (taken ++ past) := by
    rw [h.sent, next.behind_eq, List.append_assoc]
  refine ⟨receipt, taken, left, { c with places := c.places.put id (taken ++ past).length },
    next, ?_, sent, ?_⟩
  · rw [Channel.receive, h.place, Option.map_some, took]
  · rw [Json.Members.get?_put, if_pos rfl]

/-- Whether the receipts of a subscriber account for what it has taken or lost: every event it got
is there once and in order, and a notice of so many that are lost stands for as many of them. All are
latest first. -/
inductive Accounts : List (Receipt α) → List α → Prop
  | start : Accounts [] []
  | event {heard : List (Receipt α)} {past : List α} (a : α) (before : Accounts heard past) :
      Accounts (.event a :: heard) (a :: past)
  | lagged {heard : List (Receipt α)} {missed past : List α} (some_ : missed ≠ [])
      (before : Accounts heard past) : Accounts (.lagged missed.length :: heard) (missed ++ past)
  | none {heard : List (Receipt α)} {past : List α} (before : Accounts heard past) :
      Accounts (.none :: heard) past

lemma Accounts.next {heard : List (Receipt α)} (before : Accounts heard past)
    (next : Next capacity behind receipt taken left) :
    Accounts (receipt :: heard) (taken ++ past) := by
  cases next with
  | event a => exact before.event a
  | lagged _ some_ => exact before.lagged some_
  | none => exact before.none

end Channel

end MetricWatch
