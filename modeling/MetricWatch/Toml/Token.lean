import MetricWatch.Toml.Sign

/-!
# Tokens of a TOML text

Punctuation, blanks, line ends, quoted texts, and bare runs of all other characters. Comments end
with their line and are no tokens. Texts between single quotes stand as they are; between double
quotes a backslash begins an escape. Three quotes open and close a text of several lines.
-/

namespace MetricWatch.Toml

/-- A token. -/
inductive Token
  | line
  | blank
  | tab
  | dot
  | equals
  | comma
  | openBracket
  | closeBracket
  | openBrace
  | closeBrace
  | bare (text : List Char)
  | quoted (text : List Char)
  | paragraph (text : List Char)
  deriving DecidableEq, Repr

namespace Token

/-! ### The state of a scan -/

/-- Where a scan stands inside a text between double quotes. -/
inductive Escape
  | none
  | begun
  | digits (left : Nat) (read : Nat)
  | blanks
  | lines

/-- What a scan stands in. Texts are kept latest character first; `quotes` counts the quotes that
open a text, or that may close a text of several lines. -/
inductive Place
  | ground
  | comment
  | bare (text : List Char)
  | opening (quote : Char) (quotes : Nat)
  | literal (text : List Char)
  | basic (text : List Char) (escape : Escape)
  | literalLines (text : List Char) (quotes : Nat)
  | basicLines (text : List Char) (escape : Escape) (quotes : Nat)

/-- The tokens so far, latest first, and where the scan stands. -/
structure State where
  tokens : List Token
  place : Place

/-! ### Characters -/

/-- A character that may not stand in comments and texts: a control character other than tab. -/
def isControl (c : Char) : Bool := (c.toNat < 0x20 && c != '\t') || c.toNat == 0x7f

/-- The punctuation of a character. -/
def punctuation? (c : Char) : Option Token :=
  match c with
  | '.' => some .dot
  | '=' => some .equals
  | ',' => some .comma
  | '[' => some .openBracket
  | ']' => some .closeBracket
  | '\x7b' => some .openBrace
  | '\x7d' => some .closeBrace
  | ' ' => some .blank
  | '\t' => some .tab
  | _ => none

/-- The character of an escape of one letter. -/
def escaped? (c : Char) : Option Char :=
  match c with
  | 'b' => some '\x08'
  | 't' => some '\t'
  | 'n' => some '\n'
  | 'f' => some '\x0c'
  | 'r' => some '\r'
  | 'e' => some '\x1b'
  | '"' => some '"'
  | '\\' => some '\\'
  | _ => none

/-- How many digits follow an escape that gives a character by its number. -/
def digitsAfter? (c : Char) : Option Nat :=
  match c with
  | 'x' => some 2
  | 'u' => some 4
  | 'U' => some 8
  | _ => none

/-- The value of a hexadecimal digit. -/
def hexDigit? (c : Char) : Option Nat :=
  if '0' ≤ c ∧ c ≤ '9' then some (c.toNat - 48)
  else if 'a' ≤ c ∧ c ≤ 'f' then some (c.toNat - 87)
  else if 'A' ≤ c ∧ c ≤ 'F' then some (c.toNat - 55)
  else none

/-- The character of a number, if there is one. -/
def charOf? (n : Nat) : Option Char := if n.isValidChar then some (Char.ofNat n) else none

/-! ### Steps -/

/-- The state after a token. -/
def State.emit (s : State) (t : Token) : State := ⟨t :: s.tokens, .ground⟩

/-- The state after a character between tokens. -/
def State.ground (s : State) (c : Char) : State :=
  match punctuation? c with
  | some t => s.emit t
  | none =>
    if c = '#' then { s with place := .comment }
    else if c = '"' ∨ c = '\'' then { s with place := .opening c 1 }
    else { s with place := .bare [c] }

/-- Whether a character goes on with a bare run. -/
def staysBare (c : Char) : Bool :=
  (punctuation? c).isNone && c != '#' && c != '"' && c != '\''

/-- What an escape becomes after a character, and the character it stands for if it ends. -/
def stepEscape (lines : Bool) (c : Char) : Escape → Option (Escape × Option Char)
  | .begun =>
    match escaped? c, digitsAfter? c with
    | some d, _ => some (.none, some d)
    | none, some n => some (.digits n 0, none)
    | none, none => if lines ∧ (c = ' ' ∨ c = '\t') then some (.blanks, none) else none
  | .digits left read =>
    match hexDigit? c with
    | none => none
    | some n =>
      let value := 16 * read + n
      if 1 < left then some (.digits (left - 1) value, none)
      else (charOf? value).map fun d => (.none, some d)
  | .blanks => if c = ' ' ∨ c = '\t' then some (.blanks, none) else none
  | .none | .lines => none

/-- A text with another character, if it is given. -/
def extend (text : List Char) : Option Char → List Char
  | some c => c :: text
  | none => text

/-- The state after a character of a text of several lines between double quotes. -/
def State.basicLine (s : State) (text : List Char) (escape : Escape) (quotes : Nat) (c : Char) :
    Option State :=
  match escape with
  | .none =>
    if c = '"' then
      if quotes = 4 then some (s.emit (.paragraph ('"' :: '"' :: text).reverse))
      else some { s with place := .basicLines text .none (quotes + 1) }
    else if 3 ≤ quotes then
      some ((s.emit (.paragraph (List.replicate (quotes - 3) '"' ++ text).reverse)).ground c)
    else
      let text := List.replicate quotes '"' ++ text
      if c = '\\' then some { s with place := .basicLines text .begun 0 }
      else if isControl c then none
      else some { s with place := .basicLines (c :: text) .none 0 }
  | .lines =>
    if c = ' ' ∨ c = '\t' then some { s with place := .basicLines text .lines 0 }
    else if c = '"' then some { s with place := .basicLines text .none 1 }
    else if c = '\\' then some { s with place := .basicLines text .begun 0 }
    else if isControl c then none
    else some { s with place := .basicLines (c :: text) .none 0 }
  | escape =>
    (stepEscape true c escape).map fun (next, d) =>
      { s with place := .basicLines (extend text d) next 0 }

/-- The state after a character of a text of several lines between single quotes. -/
def State.literalLine (s : State) (text : List Char) (quotes : Nat) (c : Char) : Option State :=
  if c = '\'' then
    if quotes = 4 then some (s.emit (.paragraph ('\'' :: '\'' :: text).reverse))
    else some { s with place := .literalLines text (quotes + 1) }
  else if 3 ≤ quotes then
    some ((s.emit (.paragraph (List.replicate (quotes - 3) '\'' ++ text).reverse)).ground c)
  else if isControl c then none
  else some { s with place := .literalLines (c :: (List.replicate quotes '\'' ++ text)) 0 }

/-- The state after a character that follows opening quotes. -/
def State.opened (s : State) (quote : Char) (quotes : Nat) (c : Char) : Option State :=
  if quotes = 3 then
    if quote = '"' then s.basicLine [] .none 0 c else s.literalLine [] 0 c
  else if c = quote then some { s with place := .opening quote (quotes + 1) }
  else if quotes = 2 then some ((s.emit (.quoted [])).ground c)
  else if isControl c then none
  else if quote = '\'' then some { s with place := .literal [c] }
  else if c = '\\' then some { s with place := .basic [] .begun }
  else some { s with place := .basic [c] .none }

/-- The state after a character. -/
def State.char (s : State) (c : Char) : Option State :=
  match s.place with
  | .ground => some (s.ground c)
  | .comment => if isControl c then none else some s
  | .bare text =>
    if staysBare c then some { s with place := .bare (c :: text) }
    else some ((s.emit (.bare text.reverse)).ground c)
  | .opening quote quotes => s.opened quote quotes c
  | .literal text =>
    if c = '\'' then some (s.emit (.quoted text.reverse))
    else if isControl c then none
    else some { s with place := .literal (c :: text) }
  | .basic text .none =>
    if c = '"' then some (s.emit (.quoted text.reverse))
    else if c = '\\' then some { s with place := .basic text .begun }
    else if isControl c then none
    else some { s with place := .basic (c :: text) .none }
  | .basic text escape =>
    (stepEscape false c escape).map fun (next, d) =>
      { s with place := .basic (extend text d) next }
  | .literalLines text quotes => s.literalLine text quotes c
  | .basicLines text escape quotes => s.basicLine text escape quotes c

/-- The state after a line end. A line end right after three opening quotes is dropped. -/
def State.line (s : State) (ending : List Char) : Option State :=
  match s.place with
  | .ground | .comment => some (s.emit .line)
  | .bare text => some ((s.emit (.bare text.reverse)).emit .line)
  | .opening quote quotes =>
    if quotes = 3 then
      some { s with place := if quote = '"' then .basicLines [] .none 0 else .literalLines [] 0 }
    else if quotes = 2 then some ((s.emit (.quoted [])).emit .line)
    else none
  | .literal _ | .basic _ _ => none
  | .literalLines text quotes =>
    if 3 ≤ quotes then
      some ((s.emit (.paragraph (List.replicate (quotes - 3) '\'' ++ text).reverse)).emit .line)
    else
      some { s with
        place := .literalLines (ending.reverse ++ List.replicate quotes '\'' ++ text) 0 }
  | .basicLines text .none quotes =>
    if 3 ≤ quotes then
      some ((s.emit (.paragraph (List.replicate (quotes - 3) '"' ++ text).reverse)).emit .line)
    else
      some { s with
        place := .basicLines (ending.reverse ++ List.replicate quotes '"' ++ text) .none 0 }
  | .basicLines text .begun _ | .basicLines text .blanks _ | .basicLines text .lines _ =>
    some { s with place := .basicLines text .lines 0 }
  | .basicLines _ (.digits _ _) _ => none

/-- The state after a sign. -/
def State.step (s : State) : Sign → Option State
  | .char c => s.char c
  | .line ending => s.line ending

/-- The tokens of a text that ends in a state. -/
def State.finish (s : State) : Option (List Token) :=
  match s.place with
  | .ground | .comment => some s.tokens.reverse
  | .bare text => some (Token.bare text.reverse :: s.tokens).reverse
  | .opening _ 2 => some (Token.quoted [] :: s.tokens).reverse
  | .literalLines text quotes =>
    if 3 ≤ quotes then
      some (Token.paragraph (List.replicate (quotes - 3) '\'' ++ text).reverse :: s.tokens).reverse
    else none
  | .basicLines text .none quotes =>
    if 3 ≤ quotes then
      some (Token.paragraph (List.replicate (quotes - 3) '"' ++ text).reverse :: s.tokens).reverse
    else none
  | _ => none

/-- The tokens of signs. -/
def scan (signs : List Sign) : Option (List Token) := do
  let s ← signs.foldlM State.step ⟨[], .ground⟩
  s.finish

end Token

end MetricWatch.Toml
