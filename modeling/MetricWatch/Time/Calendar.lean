/-!
# Calendar

Instants as milliseconds before or after the beginning of 1970, and their dates in the Gregorian
calendar, continued over all time. Years are counted from the first of March inside, so that the
leap day is the last of its year.
-/

namespace MetricWatch.Calendar

/-- A date. -/
structure Date where
  year : Int
  month : Nat
  day : Nat
  deriving DecidableEq, Repr

/-- The days of four hundred years. -/
def eraDays : Nat := 146097

/-- The years from March that have begun by a day of an era, the first being zero. -/
def eraYear (day : Nat) : Nat := (day - day / 1460 + day / 36524 - day / 146096) / 365

/-- The first day of a year from March in an era. -/
def yearStart (year : Nat) : Nat := 365 * year + year / 4 - year / 100

/-- The date of a day, counted from the beginning of 1970. -/
def dateOf (day : Int) : Date :=
  let shifted := day + 719468
  let era := shifted.fdiv eraDays
  let inEra := (shifted.fmod eraDays).toNat
  let year := eraYear inEra
  let inYear := inEra - yearStart year
  let month := (5 * inYear + 2) / 153
  { year := year + era * 400 + if month < 10 then 0 else 1
    month := if month < 10 then month + 3 else month - 9
    day := inYear - (153 * month + 2) / 5 + 1 }

/-- A number with zeros in front up to a width. -/
def padded (width n : Nat) : String :=
  let digits := Nat.toDigits 10 n
  String.ofList (List.replicate (width - digits.length) '0' ++ digits)

/-- A year: four digits, and a sign unless it is one of those. -/
def yearText (year : Int) : String :=
  if 0 ≤ year ∧ year ≤ 9999 then padded 4 year.toNat
  else (if year < 0 then "-" else "+") ++ padded 4 year.natAbs

/-- A date as text. -/
def Date.text (d : Date) : String :=
  yearText d.year ++ "-" ++ padded 2 d.month ++ "-" ++ padded 2 d.day

/-- The milliseconds of a day. -/
def dayMillis : Nat := 86400000

/-- An instant as text. -/
def instantText (millis : Int) : String :=
  let rest := (millis.fmod dayMillis).toNat
  (dateOf (millis.fdiv dayMillis)).text ++ " " ++ padded 2 (rest / 3600000) ++ ":"
    ++ padded 2 (rest / 60000 % 60) ++ ":" ++ padded 2 (rest / 1000 % 60)
    ++ (if rest % 1000 = 0 then "" else "." ++ padded 3 (rest % 1000)) ++ " UTC"

end MetricWatch.Calendar
