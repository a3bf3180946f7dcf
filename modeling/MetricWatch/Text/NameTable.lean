import MetricWatch.Error

/-!
# Tables of names

A `NameTable` gives each of some values a name. Names are read in any ASCII case: a text is put
into lower case and compared with the names as they are written.
-/

namespace MetricWatch

/-- Values with their names, under a title for messages. -/
structure NameTable (α : Type) where
  title : String
  entries : List (α × String)

namespace NameTable

variable {α : Type}

/-- The name of a value. -/
def name? [DecidableEq α] (table : NameTable α) (a : α) : Option String :=
  (table.entries.find? fun e => e.1 = a).map Prod.snd

/-- A text with its ASCII letters in lower case. -/
def lowerCase (s : String) : String := String.ofList (s.toList.map Char.toLower)

/-- The first value whose name is the lower case of a text. -/
def find? (table : NameTable α) (s : String) : Option α :=
  (table.entries.find? fun e => e.2 = lowerCase s).map Prod.fst

/-- The value of a text; a text that names none is invalid input. -/
def parse (table : NameTable α) (s : String) : Except Error α :=
  match table.find? s with
  | some a => .ok a
  | none => .error ⟨.invalidInput, "unknown " ++ table.title ++ " '" ++ s ++ "'"⟩

end NameTable

end MetricWatch
