import MetricWatch.Text.Unprintable

/-!
# Quoted text

A text between double quotes, as error messages show it: quotes and backslashes are escaped, tab,
line feed, carriage return and NUL have letters, and a character without a shape of its own is
written by its number.
-/

namespace MetricWatch.Text

/-- A character written by its number. -/
def escapeByNumber (c : Char) : List Char :=
  '\\' :: 'u' :: '\x7b' :: (Nat.toDigits 16 c.toNat ++ ['\x7d'])

/-- A character as it stands between the quotes. -/
def quoteChar (c : Char) : List Char :=
  if c = '\x00' then ['\\', '0']
  else if c = '\t' then ['\\', 't']
  else if c = '\r' then ['\\', 'r']
  else if c = '\n' then ['\\', 'n']
  else if c = '\\' then ['\\', '\\']
  else if c = '"' then ['\\', '"']
  else if c.toNat < 0x20 then escapeByNumber c
  else if c.toNat < 0x7f then [c]
  else if isUnprintable c then escapeByNumber c
  else [c]

/-- A text between double quotes. -/
def quoted (s : String) : String :=
  String.ofList ('"' :: (s.toList.flatMap quoteChar ++ ['"']))

end MetricWatch.Text
