/-!
# Durations

A duration is a number of nanoseconds below `2 ^ 64` seconds. Sums and products stop at the
longest duration. The text of a duration uses the largest of the units s, ms, µs and ns that it
reaches, and as many places as it needs.
-/

namespace MetricWatch

/-- A length of time. -/
structure Duration where
  nanos : Nat
  deriving DecidableEq, Repr, Inhabited

namespace Duration

/-- The longest duration. -/
def longest : Duration := ⟨Nat.pow 2 64 * 1000000000 - 1⟩

/-- No time. -/
def zero : Duration := ⟨0⟩

/-- A number of nanoseconds, cut at the longest duration. -/
def ofNanos (n : Nat) : Duration := ⟨min n longest.nanos⟩

/-- A number of seconds, cut at the longest duration. -/
def ofSeconds (n : Nat) : Duration := ofNanos (n * 1000000000)

/-- A number of milliseconds, cut at the longest duration. -/
def ofMillis (n : Nat) : Duration := ofNanos (n * 1000000)

/-- The sum of two durations, cut at the longest one. -/
def add (a b : Duration) : Duration := ofNanos (a.nanos + b.nanos)

/-- A multiple of a duration, cut at the longest one. -/
def times (a : Duration) (n : Nat) : Duration := ofNanos (a.nanos * n)

/-- The whole seconds of a duration. -/
def seconds (a : Duration) : Nat := a.nanos / 1000000000

/-- The whole milliseconds of a duration. -/
def millis (a : Duration) : Nat := a.nanos / 1000000

/-! ### Text -/

/-- The places of a fraction below one, given in units of `10 ^ -width`, without trailing zeros. -/
def places (width fraction : Nat) : List Char :=
  let digits := Nat.toDigits 10 fraction
  let padded := List.replicate (width - digits.length) '0' ++ digits
  (padded.reverse.dropWhile (· == '0')).reverse

/-- A number of units with the fraction that is left, in units of `10 ^ -width`. -/
def inUnit (whole width fraction : Nat) (unit : String) : String :=
  let back := places width fraction
  String.ofList
    (Nat.toDigits 10 whole ++ (if back.isEmpty then [] else '.' :: back) ++ unit.toList)

/-- The text of a duration. -/
def text (a : Duration) : String :=
  let n := a.nanos
  if 1000000000 ≤ n then inUnit (n / 1000000000) 9 (n % 1000000000) "s"
  else if 1000000 ≤ n then inUnit (n / 1000000) 6 (n % 1000000) "ms"
  else if 1000 ≤ n then inUnit (n / 1000) 3 (n % 1000) "µs"
  else inUnit n 0 0 "ns"

end Duration

end MetricWatch
