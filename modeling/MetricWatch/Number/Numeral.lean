import MetricWatch.Number.Binary64

/-!
# Decimal numerals

A numeral is a sign, the digits before and after the point and a power of ten. Its value is an
integer when it has neither point nor exponent and fits the 64-bit ranges, and a `Binary64`
otherwise: the leading digits that fit 64 bits, rounded, times or divided by a rounded power of
ten. That rule rounds more than once, so the result can be a neighbour of the nearest number.
-/

namespace MetricWatch

/-- A number as data formats hold it: an unsigned or a negative integer of 64 bits, or a
floating point number. -/
inductive Number
  | nat (n : Nat)
  | neg (n : Int)
  | float (x : Binary64)
  deriving DecidableEq, Repr, Inhabited

/-- The exponent part of a numeral. -/
structure Numeral.Exponent where
  negative : Bool
  digits : List Nat

/-- A numeral as it stands in a text. -/
structure Numeral where
  negative : Bool
  whole : List Nat
  places : Option (List Nat)
  exponent : Option Numeral.Exponent

namespace Numeral

/-- The largest unsigned number of 64 bits. -/
def maxNat : Nat := Nat.pow 2 64 - 1

/-- The number that digits spell after a given start. -/
def digitsValue (start : Nat) (digits : List Nat) : Nat :=
  digits.foldl (fun n d => 10 * n + d) start

/-- The start extended by digits while it fits 64 bits, and how many digits are left. -/
def absorb (start : Nat) : List Nat → Nat × Nat
  | [] => (start, 0)
  | d :: rest =>
    if 10 * start + d ≤ maxNat then absorb (10 * start + d) rest else (start, rest.length + 1)

/-- The digits kept of a numeral and the power of ten that belongs to them, its exponent part
left out. Whole digits that do not fit raise the power; places that do not fit are dropped. -/
def significand (n : Numeral) : Nat × Int :=
  let (kept, dropped) := absorb 0 n.whole
  match n.places with
  | none => (kept, dropped)
  | some places =>
    let (all, unused) := absorb kept places
    (all, (dropped : Int) - ((places.length : Int) - unused))

/-- A number divided by `10 ^ power`, in steps of `10 ^ 308`. -/
def lower (x : Binary64) (power : Nat) : Binary64 :=
  if power ≤ 308 then x.div (Binary64.powerOfTen power)
  else if x.mantissa = 0 then x
  else lower (x.div (Binary64.powerOfTen 308)) (power - 308)
termination_by power

/-- A nonnegative number times `10 ^ power`; nothing when it is too large. -/
def scaled (kept : Nat) (power : Int) : Option Binary64 :=
  let x := Binary64.ofNat kept
  if power < 0 then some (lower x power.natAbs)
  else if power ≤ 308 then
    let y := x.mul (Binary64.powerOfTen power.toNat)
    if y.isFinite then some y else none
  else if kept = 0 then some x
  else none

/-- The sign put before a nonnegative number. -/
def signed (negative : Bool) (x : Binary64) : Binary64 := if negative then x.negated else x

/-- Exponents past this bound are not added up: the value is zero or too large. -/
def exponentBound : Nat := Nat.pow 2 31 - 1

/-- The floating point value of a numeral; nothing when it is too large. -/
def float? (n : Numeral) : Option Binary64 :=
  let (kept, power) := n.significand
  match n.exponent with
  | none => (scaled kept power).map (signed n.negative)
  | some e =>
    let size := digitsValue 0 e.digits
    if exponentBound < size then
      if kept ≠ 0 ∧ ¬ e.negative then none else some (signed n.negative Binary64.zero)
    else (scaled kept (power + if e.negative then -(size : Int) else size)).map (signed n.negative)

/-- The value of a numeral; nothing when it is too large. A whole numeral outside the integer
ranges is a floating point number, and so is minus zero. -/
def value? (n : Numeral) : Option Number :=
  match n.places, n.exponent with
  | none, none =>
    let whole := digitsValue 0 n.whole
    if maxNat < whole then n.float?.map .float
    else if n.negative then
      if whole = 0 ∨ Nat.pow 2 63 < whole then
        some (.float (Binary64.ofNat whole).negated)
      else some (.neg (-(whole : Int)))
    else some (.nat whole)
  | _, _ => n.float?.map .float

end Numeral

/-! ### Views of a number -/

/-- The number as a floating point number, integers rounded to the nearest. -/
def Number.toBinary64 : Number → Binary64
  | .nat n => Binary64.ofNat n
  | .neg n => Binary64.ofInt n
  | .float x => x

end MetricWatch
