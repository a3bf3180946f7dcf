import MetricWatch.Text.Base64
import Mathlib.Tactic.Lemma

/-!
# Base 64 read back

The digits of a group of bytes are the number that the bytes make up, six bits at a time, and no
digit is the sign that pads a shorter last group. So a reader tells the groups apart and gets the
bytes back. The main statement is `Base64.decodeBytes?_encodeBytes`.
-/

namespace MetricWatch.Text.Base64

/-! ### Digits -/

lemma value?_digit {n : Nat} (small : n < 64) : value? (digit n) = some n := by
  have all : ∀ n < 64, value? (digit n) = some n := by decide
  exact all n small

lemma digit_ne_pad {n : Nat} (small : n < 64) : digit n ≠ '=' := by
  have all : ∀ n < 64, digit n ≠ '=' := by decide
  exact all n small

/-! ### Groups -/

/-- The three bytes of a number of 24 bits. -/
def bytesOf (n : Nat) : List UInt8 :=
  [UInt8.ofNat (n / 65536), UInt8.ofNat (n / 256 % 256), UInt8.ofNat (n % 256)]

lemma bytesOf_three (a b c : UInt8) :
    bytesOf (a.toNat * 65536 + b.toNat * 256 + c.toNat) = [a, b, c] := by
  have := a.toNat_lt
  have := b.toNat_lt
  have := c.toNat_lt
  have first : (a.toNat * 65536 + b.toNat * 256 + c.toNat) / 65536 = a.toNat := by omega
  have second : (a.toNat * 65536 + b.toNat * 256 + c.toNat) / 256 % 256 = b.toNat := by omega
  have third : (a.toNat * 65536 + b.toNat * 256 + c.toNat) % 256 = c.toNat := by omega
  simp only [bytesOf, first, second, third, UInt8.ofNat_toNat]

/-- Four digits in front are a group of three bytes. -/
lemma decodeBytes?_group {n : Nat} (small : n < 16777216) (rest : List Char) :
    decodeBytes? (digit (n / 262144) :: digit (n / 4096 % 64) :: digit (n / 64 % 64)
      :: digit (n % 64) :: rest) = (decodeBytes? rest).map (bytesOf n ++ ·) := by
  have noPad : digit (n % 64) ≠ '=' := digit_ne_pad (Nat.mod_lt _ (by decide))
  have whole : n / 262144 * 262144 + n / 4096 % 64 * 4096 + n / 64 % 64 * 64 + n % 64 = n := by
    omega
  rw [decodeBytes?, value?_digit (by omega), value?_digit (Nat.mod_lt _ (by decide)),
    value?_digit (Nat.mod_lt _ (by decide)), value?_digit (Nat.mod_lt _ (by decide))]
  · simp only [Option.bind_eq_bind, Option.bind_some, whole, Option.map_eq_bind]
    rfl
  · exact fun _ pad _ => noPad pad
  · exact fun pad _ => noPad pad

/-- Two bytes are three digits, the last of which has two bits to spare. -/
lemma decodeBytes?_two (a b : UInt8) : decodeBytes? (encodeBytes [a, b]) = some [a, b] := by
  have := a.toNat_lt
  have := b.toNat_lt
  have noPad : digit ((a.toNat * 256 + b.toNat) * 4 % 64) ≠ '=' :=
    digit_ne_pad (Nat.mod_lt _ (by decide))
  have spare : (a.toNat * 256 + b.toNat) * 4 % 64 % 4 = 0 := by omega
  have whole : (a.toNat * 256 + b.toNat) / 1024 * 1024 + (a.toNat * 256 + b.toNat) / 16 % 64 * 16
      + (a.toNat * 256 + b.toNat) * 4 % 64 / 4 = a.toNat * 256 + b.toNat := by omega
  have first : (a.toNat * 256 + b.toNat) / 256 = a.toNat := by omega
  have second : (a.toNat * 256 + b.toNat) % 256 = b.toNat := by omega
  rw [encodeBytes, decodeBytes?, value?_digit (by omega), value?_digit (Nat.mod_lt _ (by decide)),
    value?_digit (Nat.mod_lt _ (by decide))]
  · simp only [Option.bind_eq_bind, Option.bind_some, spare, whole, first, second, if_true,
      UInt8.ofNat_toNat]
  · exact noPad

/-- One byte is two digits, the last of which has four bits to spare. -/
lemma decodeBytes?_one (a : UInt8) : decodeBytes? (encodeBytes [a]) = some [a] := by
  have := a.toNat_lt
  have spare : a.toNat * 16 % 64 % 16 = 0 := by omega
  have whole : a.toNat / 4 * 4 + a.toNat * 16 % 64 / 16 = a.toNat := by omega
  rw [encodeBytes, decodeBytes?, value?_digit (by omega), value?_digit (Nat.mod_lt _ (by decide))]
  simp only [Option.bind_eq_bind, Option.bind_some, spare, whole, if_true, UInt8.ofNat_toNat]

/-- Bytes of any number are read back. -/
theorem decodeBytes?_encodeBytes (bytes : List UInt8) :
    decodeBytes? (encodeBytes bytes) = some bytes := by
  induction bytes using encodeBytes.induct with
  | case1 a b c rest ih =>
    have := a.toNat_lt
    have := b.toNat_lt
    have := c.toNat_lt
    rw [encodeBytes, decodeBytes?_group (by omega), ih, bytesOf_three]
    rfl
  | case2 a b => exact decodeBytes?_two a b
  | case3 a => exact decodeBytes?_one a
  | case4 => rfl

end MetricWatch.Text.Base64
