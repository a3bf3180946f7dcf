/-!
# Signs of a TOML text

A TOML text is a sequence of characters and line ends. A line ends with a line feed, which a
carriage return may precede; a carriage return anywhere else is not allowed. A byte order mark at
the start is no part of the text.
-/

namespace MetricWatch.Toml

/-- A character or a line end, with the characters that it is made of. -/
inductive Sign
  | char (c : Char)
  | line (ending : List Char)
  deriving DecidableEq, Repr

/-- The signs of a text; none if a carriage return stands alone. -/
def Sign.scan : List Char → Option (List Sign)
  | [] => some []
  | '\r' :: '\n' :: rest => (Sign.scan rest).map (.line ['\r', '\n'] :: ·)
  | '\n' :: rest => (Sign.scan rest).map (.line ['\n'] :: ·)
  | c :: rest => if c = '\r' then none else (Sign.scan rest).map (.char c :: ·)

/-- A text without the byte order mark that it may start with. -/
def dropMark : List Char → List Char
  | c :: rest => if c = '\uFEFF' then rest else c :: rest
  | [] => []

end MetricWatch.Toml
