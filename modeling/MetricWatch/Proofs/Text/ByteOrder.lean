import MetricWatch.Proofs.Text.Percent
import Mathlib.Algebra.Group.Nat.Defs
import Mathlib.Tactic.SplitIfs

/-!
# Texts in the order of their bytes

The first byte of a character tells how many bytes follow it, and grows with the character as the
others do. So texts stand in the order of their characters exactly if they stand in the order of
their bytes. The main statement is `Utf8.encode_lt_iff`.
-/

namespace MetricWatch.Text.Utf8

variable {c d : Char} {v w : Nat} {x y : List UInt8}

/-! ### Bytes of a character -/

/-- How many bytes follow the first byte of a character. -/
def followerCount (v : Nat) : Nat :=
  if v ≤ 0x7f then 0 else if v ≤ 0x7ff then 1 else if v ≤ 0xffff then 2 else 3

/-- The first byte of a character. -/
def firstByte (v : Nat) : Nat :=
  v / 64 ^ followerCount v
    + if v ≤ 0x7f then 0 else if v ≤ 0x7ff then 0xc0 else if v ≤ 0xffff then 0xe0 else 0xf0

/-- The bytes that follow the first byte of a character, six bits each, and what comes after. -/
def followers : Nat → Nat → List UInt8 → List UInt8
  | 0, _, x => x
  | n + 1, v, x => UInt8.ofNat (v / 64 ^ n % 64 + 0x80) :: followers n v x

lemma toNat_lt (c : Char) : c.toNat < 0x110000 := by
  rcases c.valid with low | high
  · exact Nat.lt_trans low (by decide)
  · exact high.2

lemma encodeChar_append (c : Char) (x : List UInt8) : String.utf8EncodeChar c ++ x
    = UInt8.ofNat (firstByte c.toNat) :: followers (followerCount c.toNat) c.toNat x := by
  have bound := toNat_lt c
  simp only [String.utf8EncodeChar, show c.val.toNat = c.toNat from rfl, firstByte, followerCount]
  generalize c.toNat = v at bound
  -- The bits that are masked out of a first byte are zero.
  split_ifs
  · simp [followers]
  · rw [Nat.mod_eq_of_lt (by omega)]
    simp [followers]
  · rw [Nat.mod_eq_of_lt (by omega)]
    simp [followers]
  · rw [Nat.mod_eq_of_lt (by omega)]
    simp [followers]

/-! ### Order of characters -/

lemma cons_lt_cons {a b : Nat} (small : b < 256) (before : a < b ∨ a = b ∧ x < y) :
    UInt8.ofNat a :: x < UInt8.ofNat b :: y := by
  have small' : a < 256 := by omega
  rw [List.cons_lt_cons_iff, UInt8.lt_iff_toNat_lt, ← UInt8.toNat_inj]
  simp only [UInt8.toNat_ofNat']
  rwa [Nat.mod_eq_of_lt small, Nat.mod_eq_of_lt small']

/-- Where the leading bits are the same the following bytes are in the order of the rest. -/
lemma followers_lt (n : Nat) (same : v / 64 ^ n = w / 64 ^ n) (less : v < w) :
    followers n v x < followers n w y := by
  induction n with
  | zero =>
    rw [Nat.pow_zero, Nat.div_one, Nat.div_one] at same
    omega
  | succ n ih =>
    rw [Nat.pow_succ, ← Nat.div_div_eq_div_mul, ← Nat.div_div_eq_div_mul] at same
    have atMost : v / 64 ^ n ≤ w / 64 ^ n := Nat.div_le_div_right (Nat.le_of_lt less)
    refine cons_lt_cons (by omega) ?_
    rcases Nat.lt_or_eq_of_le atMost with before | equal
    · left
      omega
    · exact .inr ⟨by rw [equal], ih equal⟩

/-- The first byte of a lesser character is less, or it is the same and so is what it tells. -/
lemma firstByte_lt (less : v < w) : firstByte v < firstByte w ∨
    firstByte v = firstByte w ∧ followerCount v = followerCount w ∧
      v / 64 ^ followerCount v = w / 64 ^ followerCount w := by
  simp only [firstByte, followerCount]
  split_ifs <;> simp only [Nat.reducePow, Nat.div_one, Nat.add_zero, true_and] <;> omega

lemma firstByte_small (bound : w < 0x110000) : firstByte w < 256 := by
  simp only [firstByte, followerCount]
  split_ifs <;> simp only [Nat.reducePow, Nat.div_one, Nat.add_zero] <;> omega

/-- Different characters are told apart before either of them ends. -/
lemma encodeChar_lt (below : c < d) (x y : List UInt8) :
    String.utf8EncodeChar c ++ x < String.utf8EncodeChar d ++ y := by
  have less : c.toNat < d.toNat := below
  rw [encodeChar_append, encodeChar_append]
  refine cons_lt_cons (firstByte_small (toNat_lt d)) ?_
  rcases firstByte_lt less with before | ⟨sameFirst, sameCount, same⟩
  · exact .inl before
  · rw [sameCount] at same ⊢
    exact .inr ⟨sameFirst, followers_lt _ same less⟩

/-! ### Order of texts -/

lemma flatMap_encodeChar_lt {cs ds : List Char} (below : cs < ds) :
    cs.flatMap String.utf8EncodeChar < ds.flatMap String.utf8EncodeChar := by
  induction below with
  | @nil d ds =>
    rw [List.flatMap_nil, List.flatMap_cons, encodeChar_append]
    exact List.nil_lt_cons _ _
  | rel below => exact encodeChar_lt below _ _
  | cons _ ih => exact List.append_left_lt ih

lemma encode_lt {s t : String} (below : s < t) : encode s < encode t := by
  rw [encode_eq, encode_eq]
  exact flatMap_encodeChar_lt below

/-- Texts are in order exactly if their bytes are. -/
theorem encode_lt_iff {s t : String} : encode s < encode t ↔ s < t := by
  refine ⟨fun before => ?_, encode_lt⟩
  by_contra notBelow
  rcases Decidable.em (t < s) with above | notAbove
  · exact List.lt_asymm before (encode_lt above)
  · obtain rfl := String.le_antisymm (String.not_lt.mp notAbove) (String.not_lt.mp notBelow)
    exact List.lt_irrefl _ before

end MetricWatch.Text.Utf8
