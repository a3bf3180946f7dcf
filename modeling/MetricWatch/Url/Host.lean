import MetricWatch.Url.Encoding
import MetricWatch.Text.Parts

/-!
# Hosts of URLs

A host is a name, an address of four bytes or an address of eight pieces of sixteen bits. In the
special schemes a name whose last label is a number must be an address of four bytes, whose parts
may be decimal, octal or hexadecimal.
-/

namespace MetricWatch.Url

/-- A host. -/
inductive Host
  | name (text : String)
  | ipv4 (address : Nat)
  | ipv6 (pieces : List Nat)
  deriving DecidableEq, Repr

namespace Host

/-- A host name of no characters, which is as good as none. -/
def empty : Host := .name ""

/-! ### Addresses of four bytes -/

/-- The value of digits to a base, if all of them are digits to that base. -/
def digitsValue? (base : Nat) (cs : List Char) : Option Nat :=
  cs.foldlM (fun n c => do
    let d ← Text.Percent.hexValue? c
    if d < base then some (base * n + d) else none) 0

/-- The value of a part of an address, hexadecimal after `0x` and octal after `0`. -/
def ipv4Part? : List Char → Option Nat
  | [] => none
  | '0' :: 'x' :: digits => digitsValue? 16 digits
  | '0' :: 'X' :: digits => digitsValue? 16 digits
  | '0' :: d :: digits => digitsValue? 8 (d :: digits)
  | digits => digitsValue? 10 digits

/-- The parts of a dotted name, without an empty one at its end. -/
def labels (cs : List Char) : List (List Char) :=
  let ls := Text.parts (· = '.') cs
  if 1 < ls.length ∧ ls.getLast? = some [] then ls.dropLast else ls

/-- Whether the last label of a name is a number. -/
def endsInNumber (cs : List Char) : Bool :=
  match (labels cs).getLast? with
  | some label =>
    (!label.isEmpty && label.all Char.isDigit) || (ipv4Part? label).isSome
  | none => false

/-- The address that parts make; the last part fills what the others leave. -/
def ipv4OfParts? (values : List Nat) : Option Nat :=
  match values.reverse with
  | [] => none
  | last :: front =>
    if 3 < front.length ∨ front.any (255 < ·) ∨ Nat.pow 256 (4 - front.length) ≤ last then none
    else some (front.reverse.foldl (fun n v => 256 * n + v) 0 * Nat.pow 256 (4 - front.length) + last)

/-- The address of four bytes that a name spells. -/
def ipv4? (cs : List Char) : Option Nat := do
  let values ← (labels cs).mapM ipv4Part?
  ipv4OfParts? values

/-- An address of four bytes as text. -/
def ipv4Text (address : Nat) : String :=
  String.intercalate "."
    ([address / Nat.pow 256 3, address / Nat.pow 256 2 % 256, address / 256 % 256, address % 256].map
      toString)

/-! ### Addresses of eight pieces -/

/-- A piece of one to four hexadecimal digits. -/
def piece? (cs : List Char) : Option Nat :=
  if 1 ≤ cs.length ∧ cs.length ≤ 4 then digitsValue? 16 cs else none

/-- A byte in decimal, without zeros in front. -/
def decimalByte? (cs : List Char) : Option Nat :=
  if cs = [] ∨ (1 < cs.length ∧ cs.head? = some '0') then none
  else do
    let n ← digitsValue? 10 cs
    if n ≤ 255 then some n else none

/-- The two pieces that a dotted address of four bytes fills. -/
def dotted? (cs : List Char) : Option (List Nat) :=
  match (Text.parts (· = '.') cs).mapM decimalByte? with
  | some [a, b, c, d] => some [256 * a + b, 256 * c + d]
  | _ => none

/-- The pieces of groups; the last may be a dotted address. -/
def pieces? : List (List Char) → Option (List Nat)
  | [] => some []
  | [last] => if last.contains '.' then dotted? last else (piece? last).map fun p => [p]
  | group :: rest => do
    let p ← piece? group
    let ps ← pieces? rest
    some (p :: ps)

/-- The pieces of one side of the gap; the empty side has none. -/
def side? (cs : List Char) : Option (List Nat) :=
  if cs.isEmpty then some [] else pieces? (Text.parts (· = ':') cs)

/-- A text up to its first `::`, and what follows that. -/
def gap? : List Char → Option (List Char × List Char)
  | ':' :: ':' :: rest => some ([], rest)
  | c :: rest => (gap? rest).map fun s => (c :: s.1, s.2)
  | [] => none

/-- The pieces of an address. A gap stands for at least one piece of zero. -/
def ipv6? (cs : List Char) : Option (List Nat) :=
  match gap? cs with
  | some (front, back) => do
    let a ← if front.contains '.' then none else side? front
    let b ← side? back
    if a.length + b.length ≤ 7 then
      some (a ++ List.replicate (8 - a.length - b.length) 0 ++ b)
    else none
  | none => do
    let ps ← side? cs
    if ps.length = 8 then some ps else none

/-- How many pieces of zero a list begins with. -/
def zeros (ps : List Nat) : Nat := (ps.takeWhile (· = 0)).length

/-- Where the longest run of zeros begins, the first of those, and how long it is. -/
def longestZeros : List Nat → Nat → Nat × Nat
  | [], _ => (0, 0)
  | p :: rest, place =>
    let later := longestZeros rest (place + 1)
    let here := zeros (p :: rest)
    if later.2 ≤ here then (place, here) else later

/-- Pieces with colons between them. -/
def piecesText (ps : List Nat) : String :=
  String.intercalate ":" (ps.map fun p => String.ofList (Nat.toDigits 16 p))

/-- An address of eight pieces as text, its longest run of zeros left out. -/
def ipv6Text (ps : List Nat) : String :=
  let (place, length) := longestZeros ps 0
  if length < 2 then piecesText ps
  else piecesText (ps.take place) ++ "::" ++ piecesText (ps.drop (place + length))

/-! ### Any host -/

/-- Characters that no host has. -/
def isForbidden (c : Char) : Bool :=
  c.toNat = 0 || "\t\n\r #/:<>?@[\\]^|".toList.contains c

/-- Characters that no name in a special scheme has. -/
def isForbiddenInName (c : Char) : Bool :=
  isForbidden c || c.toNat < 0x20 || c = '%' || c.toNat = 0x7f

/-- A host of a special scheme that is not in brackets. -/
def special? (cs : List Char) : Option Host :=
  let label := (Text.Utf8.decodeLossy (Text.Percent.decodeBytes cs)).toList.map Char.toLower
  if label.isEmpty ∨ label.any isForbiddenInName then none
  else if endsInNumber label then (ipv4? label).map .ipv4
  else some (.name (String.ofList label))

/-- A host of another scheme that is not in brackets. -/
def other? (cs : List Char) : Option Host :=
  if cs.any isForbidden then none else some (.name (String.ofList (encodeSet isControl cs)))

/-- The host that a text spells. -/
def parse? (isSpecial : Bool) : List Char → Option Host
  | '[' :: rest =>
    if rest.getLast? = some ']' then (ipv6? rest.dropLast).map .ipv6 else none
  | cs => if isSpecial then special? cs else other? cs

/-- A host as text. -/
def text : Host → String
  | .name label => label
  | .ipv4 address => ipv4Text address
  | .ipv6 pieces => "[" ++ ipv6Text pieces ++ "]"

end Host

end MetricWatch.Url
