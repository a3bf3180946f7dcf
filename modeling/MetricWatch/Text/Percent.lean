import MetricWatch.Text.Utf8

/-!
# Percent encoding of path segments

ASCII letters, digits and `-`, `_`, `.`, `~` stand for themselves; every other byte of the text's
UTF-8 form is written as `%` and two upper-case hexadecimal digits.
-/

namespace MetricWatch.Text.Percent

/-- The bytes that stand for themselves. -/
def isUnreserved (b : UInt8) : Bool :=
  let n := b.toNat
  (48 ≤ n && n ≤ 57) || (65 ≤ n && n ≤ 90) || (97 ≤ n && n ≤ 122)
    || n == 45 || n == 95 || n == 46 || n == 126

/-- An upper-case hexadecimal digit. -/
def hexDigit (n : Nat) : Char :=
  if n < 10 then Char.ofNat (48 + n) else Char.ofNat (55 + n)

/-- The value of a hexadecimal digit. -/
def hexValue? (c : Char) : Option Nat :=
  let n := c.toNat
  if 48 ≤ n && n ≤ 57 then some (n - 48)
  else if 65 ≤ n && n ≤ 70 then some (n - 55)
  else if 97 ≤ n && n ≤ 102 then some (n - 87)
  else none

/-- One byte, encoded. -/
def encodeByte (b : UInt8) : List Char :=
  if isUnreserved b then [Char.ofNat b.toNat]
  else ['%', hexDigit (b.toNat / 16), hexDigit (b.toNat % 16)]

/-- Bytes, encoded. -/
def encodeBytes (bytes : List UInt8) : List Char := bytes.flatMap encodeByte

/-- A text, encoded. -/
def encode (s : String) : String := String.ofList (encodeBytes (Utf8.encode s))

/-- The bytes that encoded text stands for; a `%` without two digits stands for itself. -/
def decodeBytes : List Char → List UInt8
  | '%' :: a :: b :: rest =>
    match hexValue? a, hexValue? b with
    | some x, some y => UInt8.ofNat (16 * x + y) :: decodeBytes rest
    | _, _ => 0x25 :: decodeBytes (a :: b :: rest)
  | c :: rest => Utf8.encode (String.singleton c) ++ decodeBytes rest
  | [] => []

/-- The text that encoded text stands for, if the bytes are UTF-8. -/
def decode? (s : String) : Option String := Utf8.decode? (decodeBytes s.toList)

end MetricWatch.Text.Percent
