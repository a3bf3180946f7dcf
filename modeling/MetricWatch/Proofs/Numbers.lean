import MetricWatch.Number.Numeral
import Mathlib.Algebra.Group.Int.Defs
import Mathlib.Algebra.Group.Nat.Defs
import Mathlib.Tactic.Lemma

/-!
# Finite numbers

A whole number of 64 bits lies far below the largest finite floating point number, so the one that it
is rounded to is finite. The main statement is `Number.Proper.isFinite`.
-/

namespace MetricWatch

namespace Binary64

variable {n m : Nat}

/-! ### Words -/

lemma magnitude_ofMagnitude (negative : Bool) (small : m < 2 ^ 63) :
    (ofMagnitude negative m).magnitude = m := by
  simp only [ofMagnitude, magnitude, Nat.pow_eq, UInt64.toNat_ofNat']
  rw [Nat.mod_mod_of_dvd _ (by decide)]
  cases negative with
  | true => rw [if_pos rfl, Nat.add_mod_left, Nat.mod_eq_of_lt small]
  | false => rw [if_neg Bool.false_ne_true, Nat.mod_eq_of_lt small]

/-- A number is finite below the magnitude of an infinity. -/
lemma isFinite_ofMagnitude (negative : Bool) (below : m < infiniteMagnitude) :
    (ofMagnitude negative m).isFinite = true := by
  simp only [infiniteMagnitude, Nat.pow_eq] at below
  rw [isFinite, exponentField, magnitude_ofMagnitude negative (by omega), decide_eq_true_iff,
    Nat.pow_eq]
  omega

/-! ### Rounding -/

lemma roundHalfEven_le (num den : Nat) : roundHalfEven num den ≤ num / den + 1 := by
  unfold roundHalfEven
  dsimp only
  split
  · omega
  · split <;> omega

lemma binaryExponent_one (positive : n ≠ 0) : binaryExponent n 1 = n.log2 := by
  have least : 2 ^ n.log2 ≤ n := Nat.log2_self_le positive
  have guess : (n.log2 : Int) - ((1 : Nat).log2 : Int) = n.log2 := by
    rw [show Nat.log2 1 = 0 from rfl, Int.natCast_zero, Int.sub_zero]
  have enough : ¬ (scaleBy n 1 (-(n.log2 : Int))).1 < (scaleBy n 1 (-(n.log2 : Int))).2 := by
    unfold scaleBy
    split
    next whole =>
      have none : (-(n.log2 : Int)).toNat = 0 := by omega
      simp only [none, Nat.pow_eq]
      omega
    next =>
      simp only [Int.neg_neg, Int.toNat_natCast, Nat.pow_eq]
      omega
  simp only [binaryExponent, guess, if_neg enough]

/-- At the scale of its rounding a whole number has at most fifty-three bits. -/
lemma quotient_scaleBy :
    (scaleBy n 1 (52 - n.log2)).1 / (scaleBy n 1 (52 - n.log2)).2 < 2 ^ 53 := by
  have most : n < 2 ^ (n.log2 + 1) := Nat.lt_log2_self
  unfold scaleBy
  split
  next fine =>
    obtain ⟨k, small⟩ : ∃ k, n.log2 + k = 52 := ⟨52 - n.log2, by omega⟩
    have scale : (52 - (n.log2 : Int)).toNat = k := by omega
    simp only [scale, Nat.pow_eq, Nat.div_one]
    calc n * 2 ^ k < 2 ^ (n.log2 + 1) * 2 ^ k := Nat.mul_lt_mul_of_pos_right most (Nat.two_pow_pos k)
      _ = 2 ^ 53 := by rw [← Nat.pow_add, show n.log2 + 1 + k = 53 by omega]
  next coarse =>
    obtain ⟨k, large⟩ : ∃ k, n.log2 = 52 + k := ⟨n.log2 - 52, by omega⟩
    have scale : (-(52 - (n.log2 : Int))).toNat = k := by omega
    simp only [scale, Nat.pow_eq, Nat.one_mul]
    refine (Nat.div_lt_iff_lt_mul (Nat.two_pow_pos k)).mpr ?_
    calc n < 2 ^ (n.log2 + 1) := most
      _ = 2 ^ 53 * 2 ^ k := by rw [← Nat.pow_add, show n.log2 + 1 = 53 + k by omega]

lemma nearestMagnitude_lt (small : n < 2 ^ 64) : nearestMagnitude n 1 < infiniteMagnitude := by
  unfold nearestMagnitude
  split
  · decide
  next positive =>
    have few : n.log2 < 64 := (Nat.log2_lt positive).mpr small
    have scale : max ((n.log2 : Int) - 52) (-1074) = n.log2 - 52 := by omega
    have least : -((n.log2 : Int) - 52) = 52 - n.log2 := by omega
    have exponent : ((n.log2 : Int) - 52 + 1074).toNat = n.log2 + 1022 := by omega
    have rounded := roundHalfEven_le (scaleBy n 1 (52 - n.log2)).1 (scaleBy n 1 (52 - n.log2)).2
    have quotient := quotient_scaleBy (n := n)
    dsimp only
    rw [binaryExponent_one positive, scale, least, exponent]
    refine Nat.lt_of_le_of_lt (Nat.min_le_left ..) ?_
    simp only [infiniteMagnitude, Nat.pow_eq]
    omega

/-- Integers of 64 bits are rounded to finite numbers. -/
lemma isFinite_ofInt {i : Int} (small : i.natAbs < 2 ^ 64) : (ofInt i).isFinite = true :=
  isFinite_ofMagnitude _ (nearestMagnitude_lt small)

lemma isFinite_ofNat (small : n < 2 ^ 64) : (ofNat n).isFinite = true :=
  isFinite_ofMagnitude _ (nearestMagnitude_lt small)

end Binary64

namespace Number

/-- Whether a number is one that stands in a JSON value: an unsigned integer of 64 bits, a negative
one, or a finite floating point number. -/
def Proper : Number → Prop
  | .nat n => n < 2 ^ 64
  | .neg n => -2 ^ 63 ≤ n ∧ n < 0
  | .float x => x.isFinite = true

/-- As a floating point number it is finite. -/
lemma Proper.isFinite {n : Number} (proper : n.Proper) : n.toBinary64.isFinite = true := by
  cases n with
  | nat n => exact Binary64.isFinite_ofNat proper
  | neg i =>
    obtain ⟨least, negative⟩ := proper
    exact Binary64.isFinite_ofInt (by omega)
  | float x => exact proper

end Number

end MetricWatch
