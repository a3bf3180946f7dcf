import MetricWatch.Number.Binary64

/-!
# Shortest decimal text

The text of a finite `Binary64` is the decimal with the fewest digits that lies in the interval of
reals rounding to it; of two such decimals the nearer. It is written positionally when the first
digit's power of ten is between -5 and 15, and with an exponent of at least two digits otherwise.
-/

namespace MetricWatch.Binary64

/-- The reals that round to one number: the two ends as numerators over a common denominator, the
number itself between them, and whether the ends belong to it. -/
structure Interval where
  low : Nat
  mid : Nat
  high : Nat
  den : Nat
  closed : Bool

/-- The interval of a finite positive number. The lower neighbour of a power of two is half as far
away as the upper one. -/
def interval (x : Binary64) : Interval :=
  let m := x.mantissa
  let narrow := x.fraction = 0 ∧ 1 < x.exponentField
  let (unit, den) := scaleBy 1 1 (x.scale - 2)
  { low := (if narrow then 4 * m - 1 else 4 * m - 2) * unit
    mid := 4 * m * unit
    high := (4 * m + 2) * unit
    den := den
    closed := m % 2 = 0 }

/-- Whether the fraction `n / d` lies in the interval. -/
def Interval.holds (i : Interval) (n d : Nat) : Bool :=
  if i.closed then decide (i.low * d ≤ n * i.den) && decide (n * i.den ≤ i.high * d)
  else decide (i.low * d < n * i.den) && decide (n * i.den < i.high * d)

/-- The number of decimal digits of a whole number. -/
def digitCount (n : Nat) : Nat := (Nat.toDigits 10 n).length

/-- A fraction scaled by a power of ten. -/
def scaleByTen (num den : Nat) (e : Int) : Nat × Nat :=
  if 0 ≤ e then (num * Nat.pow 10 e.toNat, den) else (num, den * Nat.pow 10 (-e).toNat)

/-- The power of ten of a positive fraction's first decimal digit. -/
def decimalExponent (num den : Nat) : Int :=
  let guess : Int := (digitCount num : Int) - digitCount den
  let (n, d) := scaleByTen num den (-guess)
  if n < d then guess - 1 else guess

/-- A decimal `digits · 10 ^ power`. -/
structure Decimal where
  digits : Nat
  power : Int
  deriving DecidableEq, Repr

/-- The decimals next to the middle of an interval on the grid of `10 ^ power`, those that lie in
the interval, the nearer first. -/
def neighbours (i : Interval) (power : Int) : List Decimal :=
  let (n, d) := scaleByTen i.mid i.den (-power)
  let floor := n / d
  let hit (k : Nat) : Bool :=
    let (a, b) := scaleByTen k 1 power
    i.holds a b
  let order := if 2 * (n % d) ≤ d then [floor, floor + 1] else [floor + 1, floor]
  (order.filter hit).map fun k => ⟨k, power⟩

/-- The decimal of fewest digits in an interval whose middle has the given decimal exponent, from
`count` digits on; seventeen digits always suffice. -/
def shortestFrom (i : Interval) (exponent : Int) : Nat → Nat → Decimal
  | count, more + 1 =>
    match neighbours i (exponent - count + 1) with
    | best :: _ => best
    | [] => shortestFrom i exponent (count + 1) more
  | count, 0 =>
    let (n, d) := scaleByTen i.mid i.den (count - 1 - exponent)
    ⟨roundHalfEven n d, exponent - count + 1⟩

/-- The shortest decimal of a finite positive number. -/
def shortest (x : Binary64) : Decimal :=
  let i := x.interval
  shortestFrom i (decimalExponent i.mid i.den) 1 17

/-- A decimal without trailing zeros among its digits. -/
def Decimal.trim (d : Decimal) : Decimal :=
  let digits := (Nat.toDigits 10 d.digits).reverse
  let zeros := (digits.takeWhile (· == '0')).length
  ⟨d.digits / Nat.pow 10 zeros, d.power + zeros⟩

/-- The decimal written out: positionally with at least one place when its first digit's power of
ten is between -5 and 15, else with a signed exponent of two digits or more. -/
def Decimal.text (d : Decimal) : String :=
  let digits := Nat.toDigits 10 d.digits
  let first : Int := d.power + digits.length - 1
  if -5 ≤ first ∧ first ≤ 15 then
    if first < 0 then
      String.ofList ("0.".toList ++ List.replicate (-first - 1).toNat '0' ++ digits)
    else
      let whole := first.toNat + 1
      let front := digits.take whole ++ List.replicate (whole - digits.length) '0'
      let back := digits.drop whole
      String.ofList (front ++ '.' :: (if back.isEmpty then ['0'] else back))
  else
    let tail := digits.drop 1
    let mark := if first < 0 then "e-" else "e+"
    let power := Nat.toDigits 10 first.natAbs
    let padded := if power.length < 2 then '0' :: power else power
    String.ofList
      (digits.take 1 ++ (if tail.isEmpty then [] else '.' :: tail) ++ mark.toList ++ padded)

/-- The decimal text of a number; the infinities and NaN have none and are written as words. -/
def text (x : Binary64) : String :=
  let sign := if x.isNegative then "-" else ""
  if x.isFinite then
    if x.mantissa = 0 then sign ++ "0.0" else sign ++ x.shortest.trim.text
  else if x.fraction = 0 then sign ++ "inf" else "NaN"

end MetricWatch.Binary64
