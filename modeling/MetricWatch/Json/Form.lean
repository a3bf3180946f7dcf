import MetricWatch.Json.Reading
import MetricWatch.Json.Writing

/-!
# JSON forms of types

A `Form` says how the elements of a type are written in JSON: a shape, and how an element stands
as data of that shape. It gives a reader of texts, a reader of values and a writer at once.
-/

namespace MetricWatch.Json

/-- How the elements of a type are written. -/
structure Form (α : Type) where
  shape : Shape
  toDatum : α → Datum
  ofDatum? : Datum → Option α

namespace Form

variable {α β : Type}

/-! ### Scalars and containers -/

/-- Truth values. -/
def bool : Form Bool where
  shape := .bool
  toDatum := .bool
  ofDatum?
    | .bool b => some b
    | _ => none

/-- Texts. -/
def text : Form String where
  shape := .text
  toDatum := .text
  ofDatum?
    | .text s => some s
    | _ => none

/-- Floating point numbers. -/
def float : Form Binary64 where
  shape := .float
  toDatum := .float
  ofDatum?
    | .float x => some x
    | _ => none

/-- Signed integers of 64 bits. -/
def int64 : Form Int64 where
  shape := .int64
  toDatum n := .int n.toInt
  ofDatum?
    | .int n => some (Int64.ofInt n)
    | _ => none

/-- Unsigned integers of 64 bits, under the name they have in faults. -/
def nat64 (want : String) : Form UInt64 where
  shape := .nat64 want
  toDatum n := .int n.toNat
  ofDatum?
    | .int n => some (UInt64.ofNat n.toNat)
    | _ => none

/-- Any values. -/
def any : Form Value where
  shape := .any
  toDatum := .value
  ofDatum?
    | .value v => some v
    | _ => none

/-- Lists. -/
def list (item : Form α) : Form (List α) where
  shape := .list item.shape
  toDatum xs := .list (xs.map item.toDatum)
  ofDatum?
    | .list ds => ds.mapM item.ofDatum?
    | _ => none

/-- Maps from texts. -/
def members (item : Form α) : Form (Members α) where
  shape := .map item.shape
  toDatum m := .map (m.map fun e => (e.1, item.toDatum e.2))
  ofDatum?
    | .map es => es.mapM fun e => (item.ofDatum? e.2).map fun a => (e.1, a)
    | _ => none

/-- Null or something that is never written as null. -/
def nullable (inner : Form α) : Form (Option α) where
  shape := .nullable inner.shape
  toDatum
    | none => .none
    | some a => inner.toDatum a
  ofDatum?
    | .none => some none
    | d => (inner.ofDatum? d).map some

/-! ### Reading and writing -/

/-- An element from data that was read. Data of the form's shape always stands for one. -/
def resolve (form : Form α) (d : Datum) : Except Fault α :=
  match form.ofDatum? d with
  | some a => .ok a
  | none => .error .malformed

/-- Reads a text, `none` standing for bytes that are no character. -/
def ofChars (form : Form α) (text : List (Option Char)) : Except Fault α := do
  let d ← form.shape.readText text
  form.resolve d

/-- Reads a text. -/
def ofText (form : Form α) (s : String) : Except Fault α := form.ofChars (s.toList.map some)

/-- Reads a text given by its bytes. -/
def ofBytes (form : Form α) (bytes : List UInt8) : Except Fault α :=
  form.ofChars (Text.Utf8.decode bytes)

/-- Reads a value. -/
def ofValue (form : Form α) (v : Value) : Except Fault α := do
  let d ← form.shape.readValue v
  form.resolve d

/-- Reads a text into a value and reads that value. -/
def ofCharsByValue (form : Form α) (text : List (Option Char)) : Except Fault α := do
  let v ← Value.ofText text
  form.ofValue v

/-- Writes a value. -/
def toValue (form : Form α) (a : α) : Value := form.shape.write (form.toDatum a)

/-- Writes a text. -/
def toText (form : Form α) (a : α) : String := (form.toValue a).toText

end Form

end MetricWatch.Json
