/-!
# Binary floating point of 64 bits

A `Binary64` is its 64 bits. A finite one stands for `± m · 2 ^ q` (`mantissa`, `scale`), and
`ofRatio` rounds a nonnegative fraction to the nearest one, a tie to the even mantissa. Products
and quotients are computed exactly on fractions and rounded once.
-/

namespace MetricWatch

/-- A floating point number, as its sign, eleven exponent bits and fifty-two fraction bits. -/
structure Binary64 where
  bits : UInt64
  deriving DecidableEq, Repr, Inhabited

namespace Binary64

/-! ### The parts of the word -/

/-- The sign bit. -/
def isNegative (x : Binary64) : Bool := decide (Nat.pow 2 63 ≤ x.bits.toNat)

/-- The word without its sign. -/
def magnitude (x : Binary64) : Nat := x.bits.toNat % Nat.pow 2 63

/-- The exponent bits. -/
def exponentField (x : Binary64) : Nat := x.magnitude / Nat.pow 2 52

/-- The fraction bits. -/
def fraction (x : Binary64) : Nat := x.magnitude % Nat.pow 2 52

/-- Neither an infinity nor a NaN. -/
def isFinite (x : Binary64) : Bool := decide (x.exponentField < 2047)

/-- The whole number `m` of a finite value `± m · 2 ^ q`. -/
def mantissa (x : Binary64) : Nat :=
  if x.exponentField = 0 then x.fraction else Nat.pow 2 52 + x.fraction

/-- The power `q` of a finite value `± m · 2 ^ q`. -/
def scale (x : Binary64) : Int := (max x.exponentField 1 : Nat) - 1075

/-- The word of a magnitude with a sign. -/
def ofMagnitude (negative : Bool) (magnitude : Nat) : Binary64 :=
  ⟨UInt64.ofNat (if negative then Nat.pow 2 63 + magnitude else magnitude)⟩

/-- The magnitude of an infinity. -/
def infiniteMagnitude : Nat := 2047 * Nat.pow 2 52

/-- Positive zero. -/
def zero : Binary64 := ⟨0⟩

/-- The number with its sign bit set. -/
def negated (x : Binary64) : Binary64 := ofMagnitude true x.magnitude

/-! ### Rounding -/

/-- A fraction rounded to a whole number, a half to the even neighbour. -/
def roundHalfEven (num den : Nat) : Nat :=
  let floor := num / den
  let rest := 2 * (num % den)
  if rest < den then floor
  else if den < rest then floor + 1
  else floor + floor % 2

/-- A fraction `num / den` scaled by `2 ^ e`. -/
def scaleBy (num den : Nat) (e : Int) : Nat × Nat :=
  if 0 ≤ e then (num * Nat.pow 2 e.toNat, den) else (num, den * Nat.pow 2 (-e).toNat)

/-- The whole power of two at or below a positive fraction. -/
def binaryExponent (num den : Nat) : Int :=
  let guess : Int := (Nat.log2 num : Int) - Nat.log2 den
  let (n, d) := scaleBy num den (-guess)
  if n < d then guess - 1 else guess

/-- The magnitude nearest to a fraction; past the largest finite one, the infinite magnitude. -/
def nearestMagnitude (num den : Nat) : Nat :=
  if num = 0 then 0
  else
    let q := max (binaryExponent num den - 52) (-1074)
    let (n, d) := scaleBy num den (-q)
    min ((q + 1074).toNat * Nat.pow 2 52 + roundHalfEven n d) infiniteMagnitude

/-- The number nearest to a nonnegative fraction. -/
def ofRatio (num den : Nat) : Binary64 := ofMagnitude false (nearestMagnitude num den)

/-- The number nearest to a whole number. -/
def ofNat (n : Nat) : Binary64 := ofRatio n 1

/-- The number nearest to an integer. -/
def ofInt (n : Int) : Binary64 := ofMagnitude (decide (n < 0)) (nearestMagnitude n.natAbs 1)

/-- The magnitude of a finite number as a fraction. -/
def ratio (x : Binary64) : Nat × Nat := scaleBy x.mantissa 1 x.scale

/-- The rounded product of two nonnegative finite numbers. -/
def mul (x y : Binary64) : Binary64 :=
  ofRatio (x.ratio.1 * y.ratio.1) (x.ratio.2 * y.ratio.2)

/-- The rounded quotient of two nonnegative finite numbers. -/
def div (x y : Binary64) : Binary64 :=
  ofRatio (x.ratio.1 * y.ratio.2) (x.ratio.2 * y.ratio.1)

/-- The number nearest to a power of ten. -/
def powerOfTen (k : Nat) : Binary64 := ofNat (Nat.pow 10 k)

/-! ### Hexadecimal text -/

/-- The sixteen hexadecimal digits of the word, the sign first. -/
def hex (x : Binary64) : String :=
  let digits := Nat.toDigits 16 x.bits.toNat
  String.ofList (List.replicate (16 - digits.length) '0' ++ digits)

end Binary64

end MetricWatch
