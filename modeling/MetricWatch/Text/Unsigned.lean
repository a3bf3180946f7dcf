import MetricWatch.Text.Blank

/-!
# Unsigned numbers in settings

An unsigned number of 64 bits is written with decimal digits after an optional plus sign. Reading
goes from left to right and stops at the first character that is no digit, or at the first digit
that makes the number too large.
-/

namespace MetricWatch.Text

/-- Why a text is no unsigned number. -/
inductive UnsignedFault
  | empty
  | invalidDigit
  | tooLarge
  deriving DecidableEq, Repr

/-- The wording of a fault. -/
def UnsignedFault.message : UnsignedFault → String
  | .empty => "cannot parse integer from empty string"
  | .invalidDigit => "invalid digit found in string"
  | .tooLarge => "number too large to fit in target type"

/-- The number that digits make after a start. -/
def readDigits (start : Nat) : List Char → Except UnsignedFault Nat
  | [] => .ok start
  | c :: rest =>
    if c.isDigit then
      let next := 10 * start + (c.toNat - 48)
      if next < Nat.pow 2 64 then readDigits next rest else .error .tooLarge
    else .error .invalidDigit

/-- The number that a text spells. -/
def readUnsigned (s : String) : Except UnsignedFault UInt64 := do
  let digits := match s.toList with
    | '+' :: c :: rest => c :: rest
    | cs => cs
  if digits.isEmpty then .error .empty
  let n ← readDigits 0 digits
  .ok (UInt64.ofNat n)

end MetricWatch.Text
