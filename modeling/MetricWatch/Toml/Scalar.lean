import MetricWatch.Text.Parts
import MetricWatch.Json.Tree
import MetricWatch.Toml.Moment

/-!
# Scalars of TOML

The bare values: truth values, integers in four bases, floating point numbers and moments.
Underscores may stand between digits.
-/

namespace MetricWatch.Toml.Scalar

open Json (Tree)

/-- The digits of a run in which single underscores stand between digits. -/
def digits? (isDigit : Char → Bool) : List Char → Option (List Char)
  | [] => none
  | [c] => if isDigit c then some [c] else none
  | c :: '_' :: d :: rest => do
    let more ← digits? isDigit (d :: rest)
    if isDigit c then some (c :: more) else none
  | c :: d :: rest => do
    let more ← digits? isDigit (d :: rest)
    if isDigit c then some (c :: more) else none

/-- The value of a digit in any base. -/
def digitValue (c : Char) : Nat :=
  if c.isDigit then c.toNat - 48 else if 'a' ≤ c then c.toNat - 87 else c.toNat - 55

/-- The number that digits make in a base. -/
def inBase (base : Nat) (cs : List Char) : Nat := cs.foldl (fun n c => base * n + digitValue c) 0

/-- A hexadecimal digit. -/
def isHex (c : Char) : Bool := c.isDigit || ('a' ≤ c && c ≤ 'f') || ('A' ≤ c && c ≤ 'F')

/-- The bounds of integers, which exceed those that settings can use. -/
def maxInteger : Nat := Nat.pow 2 128 - 1

/-- An integer as a tree. One that settings cannot use stands for a number without a value. -/
def integer? (negative : Bool) (n : Nat) : Option Tree :=
  if negative then
    if n ≤ Nat.pow 2 63 then some (.number (some (if n = 0 then .nat 0 else .neg (-(n : Int)))))
    else if n ≤ Nat.pow 2 127 then some (.number none)
    else none
  else if n < Nat.pow 2 64 then some (.number (some (.nat n)))
  else if n ≤ maxInteger then some (.number none)
  else none

/-- A sign and what follows it. -/
def sign (cs : List Char) : Bool × List Char :=
  match cs with
  | '-' :: rest => (true, rest)
  | '+' :: rest => (false, rest)
  | _ => (false, cs)

/-- The digits of a decimal integer, without a zero in front of others. -/
def decimal? (cs : List Char) : Option (List Char) := do
  let ds ← digits? Char.isDigit cs
  match ds with
  | '0' :: _ :: _ => none
  | ds => some ds

/-- The exponent part that stands behind its mark. -/
def exponent? (cs : List Char) : Option Numeral.Exponent := do
  let (negative, cs) := sign cs
  let ds ← digits? Char.isDigit cs
  some ⟨negative, ds.map digitValue⟩

/-- A floating point number with a point or an exponent. -/
def float? (negative : Bool) (cs : List Char) : Option Tree := do
  let (front, power) := Text.cut (fun c => c = 'e' || c = 'E') cs
  let (whole, places) := Text.cut (· = '.') front
  let whole ← decimal? whole
  let places ← match places with
    | none => some none
    | some ds => (digits? Char.isDigit ds).map some
  let exponent ← match power with
    | none => some none
    | some ds => (exponent? ds).map some
  let numeral : Numeral :=
    ⟨negative, whole.map digitValue, places.map (·.map digitValue), exponent⟩
  let x ← numeral.float?
  some (.number (some (.float x)))

/-- Infinity. -/
def infinity (negative : Bool) : Binary64 :=
  Binary64.ofMagnitude negative Binary64.infiniteMagnitude

/-- A number that is no number. -/
def notANumber (negative : Bool) : Binary64 :=
  Binary64.ofMagnitude negative (Binary64.infiniteMagnitude + Nat.pow 2 51)

/-- An integer in a base other than ten. -/
def based? (base : Nat) (isDigit : Char → Bool) (cs : List Char) : Option Tree := do
  let ds ← digits? isDigit cs
  integer? false (inBase base ds)

/-- The tree of a moment. -/
def moment (cs : List Char) : Tree :=
  .object [(.text "$__toml_private_datetime", .string (some (String.ofList cs)))] .closed

/-- The tree of a bare value. -/
def read? (cs : List Char) : Option Tree :=
  match cs with
  | ['t', 'r', 'u', 'e'] => some (.bool true)
  | ['f', 'a', 'l', 's', 'e'] => some (.bool false)
  | '0' :: 'x' :: rest => based? 16 isHex rest
  | '0' :: 'o' :: rest => based? 8 (fun c => '0' ≤ c && c ≤ '7') rest
  | '0' :: 'b' :: rest => based? 2 (fun c => c = '0' || c = '1') rest
  | _ =>
    if Moment.isMoment cs then some (moment cs)
    else
      let (negative, rest) := sign cs
      match rest with
      | ['i', 'n', 'f'] => some (.number (some (.float (infinity negative))))
      | ['n', 'a', 'n'] => some (.number (some (.float (notANumber negative))))
      | rest =>
        if rest.any (fun c => c = '.' || c = 'e' || c = 'E') then float? negative rest
        else do
          let ds ← decimal? rest
          integer? negative (inBase 10 ds)

end MetricWatch.Toml.Scalar
