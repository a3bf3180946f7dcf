import Mathlib.Tactic.Lemma
import Mathlib.Tactic.SplitIfs

/-!
# The case of letters

Between capitals and small letters lie thirty-two places. The two equations below are all that is
used of the change of case: what is one letter in two cases, or no letter at all, is then a matter
of numbers.
-/

namespace MetricWatch.Text

/-- The capitals `A` to `Z` are moved up, and nothing else is. -/
lemma toNat_toLower (c : Char) :
    c.toLower.toNat = if 65 ≤ c.toNat ∧ c.toNat ≤ 90 then c.toNat + 32 else c.toNat := by
  have capital : c.val ≥ 'A'.val ∧ c.val ≤ 'Z'.val ↔ 65 ≤ c.toNat ∧ c.toNat ≤ 90 := Iff.rfl
  have sum : (c.val + ('a'.val - 'A'.val)).toNat = (c.toNat + 32) % 2 ^ 32 := UInt32.toNat_add ..
  unfold Char.toLower
  split_ifs with low within within
  · exact sum.trans (Nat.mod_eq_of_lt (by omega))
  · exact absurd (capital.mp low) within
  · exact absurd (capital.mpr within) low
  · rfl

/-- The small letters `a` to `z` are moved down, and nothing else is. -/
lemma toNat_toUpper (c : Char) :
    c.toUpper.toNat = if 97 ≤ c.toNat ∧ c.toNat ≤ 122 then c.toNat - 32 else c.toNat := by
  have small : c.val ≥ 'a'.val ∧ c.val ≤ 'z'.val ↔ 97 ≤ c.toNat ∧ c.toNat ≤ 122 := Iff.rfl
  -- Going down by thirty-two is going up until the numbers of thirty-two bits wrap.
  have sum : (c.val + ('A'.val - 'a'.val)).toNat = (c.toNat + (2 ^ 32 - 32)) % 2 ^ 32 :=
    UInt32.toNat_add ..
  unfold Char.toUpper
  split_ifs with high within within
  · refine sum.trans ?_
    omega
  · exact absurd (small.mp high) within
  · exact absurd (small.mpr within) high
  · rfl

lemma toLower_toLower (c : Char) : c.toLower.toLower = c.toLower := by
  simp only [← Char.toNat_inj, toNat_toLower]
  split_ifs <;> omega

/-- A character that is no letter is in no other case. -/
lemma eq_of_toLower {c d : Char} (lower : c.toLower = d) (noLetter : d.toNat < 97) : c = d := by
  have code := toNat_toLower c
  rw [lower] at code
  rw [← Char.toNat_inj]
  split_ifs at code <;> omega

end MetricWatch.Text
