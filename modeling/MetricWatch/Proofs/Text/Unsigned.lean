import MetricWatch.Text.Unsigned
import Mathlib.Tactic.Lemma

/-!
# Unsigned numbers that texts spell

A text spells an unsigned number of 64 bits when it has one digit or more behind an optional plus
sign and the number fits. Reading from left to right accepts these texts and no others, although it
stops at the first digit that makes the number too large: more digits never make it smaller again.
The main statement is `readUnsigned_eq_ok`.
-/

namespace MetricWatch.Text

/-- Whether a text spells an unsigned number of 64 bits. -/
def Spells (s : String) (n : UInt64) : Prop :=
  ∃ digits, (s.toList = digits ∨ s.toList = '+' :: digits) ∧ digits ≠ [] ∧
    (∀ c ∈ digits, c.isDigit = true) ∧ Nat.ofDigitChars 10 digits 0 = n.toNat

variable {start n : Nat} {digits : List Char}

lemma le_ofDigitChars (digits : List Char) (start : Nat) :
    start ≤ Nat.ofDigitChars 10 digits start := by
  induction digits generalizing start with
  | nil => exact Nat.le_of_eq Nat.ofDigitChars_nil.symm
  | cons c rest ih =>
    rw [Nat.ofDigitChars_cons]
    have more := ih (10 * start + (c.toNat - '0'.toNat))
    omega

lemma readDigits_eq_ok (small : start < Nat.pow 2 64) : readDigits start digits = .ok n ↔
    (∀ c ∈ digits, c.isDigit = true) ∧ Nat.ofDigitChars 10 digits start = n ∧ n < Nat.pow 2 64 := by
  induction digits generalizing start with
  | nil =>
    simp only [readDigits, Except.ok.injEq, Nat.ofDigitChars_nil, List.not_mem_nil,
      false_imp_iff, implies_true, true_and]
    constructor
    · rintro rfl
      exact ⟨rfl, small⟩
    · exact And.left
  | cons c rest ih =>
    rw [readDigits, Nat.ofDigitChars_cons, List.forall_mem_cons]
    change (if c.isDigit then (if 10 * start + (c.toNat - '0'.toNat) < Nat.pow 2 64 then
      readDigits (10 * start + (c.toNat - '0'.toNat)) rest else _) else _) = _ ↔ _
    by_cases digit : c.isDigit
    · rw [if_pos digit]
      by_cases fits : 10 * start + (c.toNat - '0'.toNat) < Nat.pow 2 64
      · rw [if_pos fits, ih fits]
        simp only [digit, true_and]
      · rw [if_neg fits]
        constructor
        · rintro ⟨⟩
        · rintro ⟨-, rfl, few⟩
          have least := le_ofDigitChars rest (10 * start + (c.toNat - '0'.toNat))
          omega
    · rw [if_neg digit]
      constructor
      · rintro ⟨⟩
      · rintro ⟨⟨isDigit, -⟩, -⟩
        exact absurd isDigit digit

/-- Digits of a number of 64 bits are read as that number. -/
lemma readDigits_toNat {n : UInt64} : (readDigits 0 digits).map UInt64.ofNat = .ok n ↔
    (∀ c ∈ digits, c.isDigit = true) ∧ Nat.ofDigitChars 10 digits 0 = n.toNat := by
  constructor
  · intro read
    cases digitsRead : readDigits 0 digits with
    | error => rw [digitsRead] at read; cases read
    | ok m =>
      rw [digitsRead] at read
      cases read
      obtain ⟨all, value, few⟩ := (readDigits_eq_ok (by decide)).mp digitsRead
      exact ⟨all, by rw [value, UInt64.toNat_ofNat', Nat.mod_eq_of_lt few]⟩
  · rintro ⟨all, value⟩
    rw [(readDigits_eq_ok (by decide)).mpr ⟨all, value, n.toNat_lt⟩, Except.map, UInt64.ofNat_toNat]

/-- A text is read as the unsigned number that it spells, if it spells one. -/
theorem readUnsigned_eq_ok {s : String} {n : UInt64} : readUnsigned s = .ok n ↔ Spells s n := by
  have read (digits : List Char) :
      (do if digits.isEmpty then .error .empty
          let n ← readDigits 0 digits
          .ok (UInt64.ofNat n)) = (.ok n : Except UnsignedFault UInt64) ↔
        digits ≠ [] ∧ (∀ c ∈ digits, c.isDigit = true) ∧
          Nat.ofDigitChars 10 digits 0 = n.toNat := by
    rw [← readDigits_toNat]
    cases digits with
    | nil => simp [bind, Except.bind]
    | cons c rest => simp [bind, Except.bind, Except.map]
  unfold readUnsigned Spells
  split
  next c rest text =>
    rw [read, text]
    constructor
    · exact fun ⟨some_, all, value⟩ => ⟨c :: rest, .inr rfl, some_, all, value⟩
    · rintro ⟨digits, rfl | same, some_, all, value⟩
      · exact absurd (all '+' List.mem_cons_self) (by decide)
      · obtain rfl : c :: rest = digits := (List.cons.inj same).2
        exact ⟨some_, all, value⟩
  next cs other =>
    rw [read]
    constructor
    · exact fun ⟨some_, all, value⟩ => ⟨_, .inl rfl, some_, all, value⟩
    · rintro ⟨digits, rfl | same, some_, all, value⟩
      · exact ⟨some_, all, value⟩
      · obtain ⟨c, rest, rfl⟩ := List.exists_cons_of_ne_nil some_
        exact absurd same (other c rest)

end MetricWatch.Text
