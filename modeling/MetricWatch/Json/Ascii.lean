import MetricWatch.Json.Writing

/-!
# JSON in ASCII

The text of a value in which every character beyond ASCII is escaped, those beyond the first
65,536 as a pair. Such characters stand only inside strings, where an escape means the same.
-/

namespace MetricWatch.Json

/-- A unit of sixteen bits, escaped. -/
def escapeUnit (n : Nat) : List Char :=
  ['\\', 'u', hexDigit (n / 4096), hexDigit (n / 256), hexDigit (n / 16), hexDigit n]

/-- A character, escaped unless it is ASCII. -/
def asciiChar (c : Char) : List Char :=
  let n := c.toNat
  if n < 0x80 then [c]
  else if n < 0x10000 then escapeUnit n
  else escapeUnit (0xd800 + (n - 0x10000) / 0x400) ++ escapeUnit (0xdc00 + (n - 0x10000) % 0x400)

/-- The text of a value in ASCII. -/
def Value.toAscii (v : Value) : String := String.ofList (v.print.flatMap asciiChar)

end MetricWatch.Json
