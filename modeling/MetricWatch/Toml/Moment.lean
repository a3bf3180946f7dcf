/-!
# Dates and times

A moment is a date, a time of day, or both with a `T` or a blank between them, and then perhaps
an offset from universal time. Months have their lengths and seconds may be left out.
-/

namespace MetricWatch.Toml.Moment

/-- A number of exactly so many digits, and what follows it. -/
def digits? : Nat → List Char → Option (Nat × List Char)
  | 0, cs => some (0, cs)
  | n + 1, c :: cs => do
    let (rest, after) ← digits? n cs
    if c.isDigit then some ((c.toNat - 48) * Nat.pow 10 n + rest, after) else none
  | _ + 1, [] => none

/-- What follows a character that must stand. -/
def expect? (wanted : Char) : List Char → Option (List Char)
  | c :: cs => if c = wanted then some cs else none
  | [] => none

/-- Whether a year has a day more than others. -/
def isLeap (year : Nat) : Bool := year % 4 == 0 && (year % 100 != 0 || year % 400 == 0)

/-- The days of a month. -/
def daysOf (year month : Nat) : Nat :=
  if month = 2 then (if isLeap year then 29 else 28)
  else if month = 4 ∨ month = 6 ∨ month = 9 ∨ month = 11 then 30
  else 31

/-- What follows a date. -/
def date? (cs : List Char) : Option (List Char) := do
  let (year, cs) ← digits? 4 cs
  let cs ← expect? '-' cs
  let (month, cs) ← digits? 2 cs
  let cs ← expect? '-' cs
  let (day, cs) ← digits? 2 cs
  if 1 ≤ month ∧ month ≤ 12 ∧ 1 ≤ day ∧ day ≤ daysOf year month then some cs else none

/-- What follows an hour and a minute. -/
def clock? (cs : List Char) : Option (List Char) := do
  let (hour, cs) ← digits? 2 cs
  let cs ← expect? ':' cs
  let (minute, cs) ← digits? 2 cs
  if hour ≤ 23 ∧ minute ≤ 59 then some cs else none

/-- What follows a time of day. -/
def time? (cs : List Char) : Option (List Char) := do
  let cs ← clock? cs
  match cs with
  | ':' :: cs =>
    let (second, cs) ← digits? 2 cs
    if 60 < second then none
    match cs with
    | '.' :: cs =>
      if (cs.head?.any Char.isDigit) then some (cs.dropWhile Char.isDigit) else none
    | cs => some cs
  | cs => some cs

/-- Whether a text is an offset or empty. -/
def isOffset (cs : List Char) : Bool :=
  match cs with
  | [] => true
  | ['Z'] | ['z'] => true
  | c :: cs => (c = '+' ∨ c = '-') && clock? cs == some []

/-- Whether a text is a moment. -/
def isMoment (cs : List Char) : Bool :=
  match date? cs with
  | some [] => true
  | some (c :: rest) =>
    (c = 'T' ∨ c = 't' ∨ c = ' ') && (time? rest).any isOffset
  | none => time? cs == some []

/-- Whether a text has the look of a date, so that a time may follow after a blank. -/
def looksLikeDate (cs : List Char) : Bool :=
  match cs with
  | [a, b, c, d, '-', e, f, '-', g, h] => [a, b, c, d, e, f, g, h].all Char.isDigit
  | _ => false

end MetricWatch.Toml.Moment
