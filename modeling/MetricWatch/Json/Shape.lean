import MetricWatch.Json.Value

/-!
# Shapes

A `Shape` describes how a kind of data is written in JSON, and a `Datum` is data of some shape.
Records are positional in a datum: the keys belong to the shape. Reading
(`MetricWatch.Json.Reading`) and writing (`MetricWatch.Json.Writing`) both follow the shape, so
one description fixes both directions.
-/

namespace MetricWatch.Json

/-- Data in some shape. -/
inductive Datum
  | none
  | bool (b : Bool)
  | int (n : Int)
  | float (x : Binary64)
  | text (s : String)
  | value (v : Value)
  | list (items : List Datum)
  | map (entries : List (String × Datum))
  | record (parts : List Datum)
  | first (d : Datum)
  | second (d : Datum)
  deriving Inhabited, Repr

/-- What becomes of a record's part that is not given: it must be given, it has a default, or it
may be left out and then is none, which is also not written. -/
inductive Absence
  | required
  | filled (d : Datum)
  | omitted
  deriving Inhabited

mutual
/-- How a kind of data is written. -/
inductive Shape
  /-- A truth value. -/
  | bool
  /-- A text. -/
  | text
  /-- A floating point number; integers are accepted. -/
  | float
  /-- A signed integer of 64 bits. -/
  | int64
  /-- An unsigned integer of 64 bits, under the name it has in faults. -/
  | nat64 (want : String)
  /-- Any value. -/
  | any
  /-- One of some names. -/
  | name (names : List String)
  /-- A list. -/
  | list (item : Shape)
  /-- A map from texts. -/
  | map (item : Shape)
  /-- Null or something. -/
  | nullable (inner : Shape)
  /-- A record under the title it has in faults: an object, or a list of its parts. -/
  | record (title : String) (fields : Fields)
  /-- A record that is an object only. -/
  | object (title : String) (fields : Fields)
  /-- A name under one key and a content under another, under the title it has in faults. -/
  | tagged (title tag content : String) (names : List String) (inner : Shape)
  /-- The first of two shapes that fits, under the title it has in faults. -/
  | either (title : String) (first second : Shape)
  /-- Data in a raw shape, refined by a check; `render` undoes the check. -/
  | checked (raw : Shape) (check : Datum → Except String Datum) (render : Datum → Datum)

/-- The parts of a record, in order. -/
inductive Fields
  | done
  | field (key : String) (shape : Shape) (absence : Absence) (rest : Fields)
end

namespace Fields

/-- A part that must be given, before other parts. -/
def need (key : String) (shape : Shape) (rest : Fields) : Fields :=
  .field key shape .required rest

/-- A part that may be left out, before other parts. -/
def may (key : String) (shape : Shape) (rest : Fields) : Fields :=
  .field key (.nullable shape) .omitted rest

/-- A part with a default, before other parts. -/
def default (key : String) (shape : Shape) (d : Datum) (rest : Fields) : Fields :=
  .field key shape (.filled d) rest

end Fields

end MetricWatch.Json
