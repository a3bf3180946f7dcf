import MetricWatch.Text.Utf8

/-!
# Base 64

Three bytes are written as four digits of six bits; a shorter last group is padded with `=`.
-/

namespace MetricWatch.Text.Base64

/-- The digit of a six-bit number. -/
def digit (n : Nat) : Char :=
  if n < 26 then Char.ofNat (65 + n)
  else if n < 52 then Char.ofNat (71 + n)
  else if n < 62 then Char.ofNat (n - 4)
  else if n = 62 then '+'
  else '/'

/-- The number of a digit. -/
def value? (c : Char) : Option Nat :=
  let n := c.toNat
  if 65 ≤ n && n ≤ 90 then some (n - 65)
  else if 97 ≤ n && n ≤ 122 then some (n - 71)
  else if 48 ≤ n && n ≤ 57 then some (n + 4)
  else if c == '+' then some 62
  else if c == '/' then some 63
  else none

/-- Bytes, encoded. -/
def encodeBytes : List UInt8 → List Char
  | a :: b :: c :: rest =>
    let n := a.toNat * 65536 + b.toNat * 256 + c.toNat
    digit (n / 262144) :: digit (n / 4096 % 64) :: digit (n / 64 % 64) :: digit (n % 64)
      :: encodeBytes rest
  | [a, b] =>
    let n := a.toNat * 256 + b.toNat
    [digit (n / 1024), digit (n / 16 % 64), digit (n * 4 % 64), '=']
  | [a] => [digit (a.toNat / 4), digit (a.toNat * 16 % 64), '=', '=']
  | [] => []

/-- A text, encoded. -/
def encode (s : String) : String := String.ofList (encodeBytes (Utf8.encode s))

/-- The bytes of encoded text. -/
def decodeBytes? : List Char → Option (List UInt8)
  | [] => some []
  | [a, b, '=', '='] => do
    let x ← value? a
    let y ← value? b
    if y % 16 = 0 then some [UInt8.ofNat (x * 4 + y / 16)] else none
  | [a, b, c, '='] => do
    let x ← value? a
    let y ← value? b
    let z ← value? c
    if z % 4 = 0 then
      let n := x * 1024 + y * 16 + z / 4
      some [UInt8.ofNat (n / 256), UInt8.ofNat (n % 256)]
    else none
  | a :: b :: c :: d :: rest => do
    let x ← value? a
    let y ← value? b
    let z ← value? c
    let w ← value? d
    let n := x * 262144 + y * 4096 + z * 64 + w
    let more ← decodeBytes? rest
    some (UInt8.ofNat (n / 65536) :: UInt8.ofNat (n / 256 % 256) :: UInt8.ofNat (n % 256) :: more)
  | _ => none

end MetricWatch.Text.Base64
