import MetricWatch.Json.Shape
import MetricWatch.Number.Shortest

/-!
# Writing JSON

`Shape.write` turns data in a shape into a value, and `Value.print` a value into text without
spaces. Strings escape quotes, backslashes and control characters, the short escapes where JSON
has one.
-/

namespace MetricWatch.Json

/-! ### Data as values -/

/-- A floating point number as a value; one that is no number is null. -/
def Value.ofFloat (x : Binary64) : Value := if x.isFinite then .number (.float x) else .null

/-- A whole number as a value. -/
def Value.ofInt (n : Int) : Value :=
  .number (if 0 ≤ n then .nat n.toNat else .neg n)

/-- The value under a key of an object under construction, unless it may be left out and is. -/
def putPart (key : String) (absence : Absence) (d : Datum) (v : Value) (members : Members Value) :
    Members Value :=
  match absence, d with
  | .omitted, .none => members
  | _, _ => Members.put key v members

mutual
/-- The value of data in a shape. -/
def Shape.write : Shape → Datum → Value
  | .bool, .bool b => .bool b
  | .text, .text s => .string s
  | .float, .float x => Value.ofFloat x
  | .int64, .int n => Value.ofInt n
  | .nat64 _, .int n => Value.ofInt n
  | .any, .value v => v
  | .name _, .text s => .string s
  | .list item, .list ds => .array (ds.map item.write)
  | .map item, .map entries => .object (entries.map fun e => (e.1, item.write e.2))
  | .nullable _, .none => .null
  | .nullable inner, d => inner.write d
  | .record _ fields, .record parts => .object (fields.writeParts parts)
  | .object _ fields, .record parts => .object (fields.writeParts parts)
  | .tagged _ tag content _ inner, .record [.text name, d] =>
    .object (Members.ofList [(tag, .string name), (content, inner.write d)])
  | .either _ first _, .first d => first.write d
  | .either _ _ second, .second d => second.write d
  | .checked raw _ render, d => raw.write (render d)
  | _, _ => .null

/-- The members of a record. -/
def Fields.writeParts : Fields → List Datum → Members Value
  | .field key shape absence rest, d :: ds =>
    putPart key absence d (shape.write d) (rest.writeParts ds)
  | _, _ => []
end

/-! ### Values as text -/

/-- A hexadecimal digit in lower case. -/
def hexDigit (n : Nat) : Char := Nat.digitChar (n % 16)

/-- A character as it stands in a printed string. -/
def printChar (c : Char) : List Char :=
  if c = '"' then ['\\', '"']
  else if c = '\\' then ['\\', '\\']
  else if c = '\x08' then ['\\', 'b']
  else if c = '\x0c' then ['\\', 'f']
  else if c = '\n' then ['\\', 'n']
  else if c = '\r' then ['\\', 'r']
  else if c = '\t' then ['\\', 't']
  else if c.toNat < 0x20 then
    ['\\', 'u', '0', '0', hexDigit (c.toNat / 16), hexDigit c.toNat]
  else [c]

/-- A printed string. -/
def printString (s : String) : List Char :=
  '"' :: (s.toList.flatMap printChar ++ ['"'])

/-- A printed number; a float that is no number is null. -/
def printNumber : Number → List Char
  | .nat n => (toString n).toList
  | .neg n => (toString n).toList
  | .float x => if x.isFinite then x.text.toList else "null".toList

/-- Printed parts with commas between them. -/
def separated : List (List Char) → List Char
  | [] => []
  | [a] => a
  | a :: rest => a ++ ',' :: separated rest

mutual
/-- A printed value. -/
def Value.print : Value → List Char
  | .null => "null".toList
  | .bool b => if b then "true".toList else "false".toList
  | .number n => printNumber n
  | .string s => printString s
  | .array items => '[' :: (separated (Value.printAll items) ++ [']'])
  | .object members => '\x7b' :: (separated (Value.printMembers members) ++ ['\x7d'])

/-- Printed values. -/
def Value.printAll : List Value → List (List Char)
  | [] => []
  | v :: rest => v.print :: Value.printAll rest

/-- Printed members. -/
def Value.printMembers : List (String × Value) → List (List Char)
  | [] => []
  | (key, v) :: rest => (printString key ++ ':' :: v.print) :: Value.printMembers rest
end

/-- The text of a value. -/
def Value.toText (v : Value) : String := String.ofList v.print

end MetricWatch.Json
