import MetricWatch.Json.Tree

/-!
# Scanning JSON text

The scanner reads a text character by character and keeps the open arrays and objects on a stack,
so its nesting is bounded by nothing but the text. `Document.scan` is its run over a text; where
the text stops being JSON the open parts are closed as broken ones.
-/

namespace MetricWatch.Json

namespace Scanner

/-! ### The state of a scan -/

/-- An open array or object, its parts latest first; `member` waits for the value of a key. -/
inductive Frame
  | array (items : List Tree)
  | members (members : List (Key × Tree))
  | member (members : List (Key × Tree)) (key : Key)

/-- What may stand next between tokens. -/
inductive Place
  | value
  | firstItem
  | firstKey
  | key
  | colon (key : Key)
  | next

/-- A part of a string: a character, an escaped UTF-16 unit, or bytes that are no character. -/
inductive Piece
  | char (c : Char)
  | unit (n : Nat)
  | stray

/-- Where a scan stands inside a string. -/
inductive Escape
  | none
  | begun
  | digits (left : Nat) (read : Nat)

/-- Where a scan stands inside a numeral. -/
inductive Stage
  | sign
  | zero
  | whole
  | point
  | places
  | mark
  | markSign
  | power
  deriving DecidableEq

/-- A numeral as far as it is read, its digits latest first. -/
structure Digits where
  negative : Bool
  whole : List Nat
  places : Option (List Nat)
  exponent : Option (Bool × List Nat)

/-- The state of a scan: between tokens, inside one, past the value, or past a break. -/
inductive State
  | between (stack : List Frame) (place : Place)
  | inString (stack : List Frame) (asKey : Bool) (pieces : List Piece) (escape : Escape)
  | inNumeral (stack : List Frame) (digits : Digits) (stage : Stage)
  | inWord (stack : List Frame) (rest : List Char) (word : Tree)
  | past (root : Tree) (whole : Bool)
  | stopped (root : Tree)

/-! ### Strings -/

/-- The text of pieces; a surrogate without its partner and a stray byte have none. -/
def textOf? : List Piece → Option (List Char)
  | [] => some []
  | .char c :: rest => (textOf? rest).map (c :: ·)
  | .stray :: _ => none
  | .unit n :: rest =>
    if n < 0xd800 || 0xdfff < n then (textOf? rest).map (Char.ofNat n :: ·)
    else if n < 0xdc00 then
      match rest with
      | .unit m :: more =>
        if 0xdc00 ≤ m && m ≤ 0xdfff then
          (textOf? more).map (Char.ofNat (0x10000 + (n - 0xd800) * 0x400 + (m - 0xdc00)) :: ·)
        else none
      | _ => none
    else none

/-- The value of a hexadecimal digit. -/
def hexValue? (c : Char) : Option Nat :=
  let n := c.toNat
  if 48 ≤ n && n ≤ 57 then some (n - 48)
  else if 65 ≤ n && n ≤ 70 then some (n - 55)
  else if 97 ≤ n && n ≤ 102 then some (n - 87)
  else none

/-- The character of a one-letter escape. -/
def simpleEscape? (c : Char) : Option Char :=
  if c = '"' ∨ c = '\\' ∨ c = '/' then some c
  else if c = 'b' then some '\x08'
  else if c = 'f' then some '\x0c'
  else if c = 'n' then some '\n'
  else if c = 'r' then some '\r'
  else if c = 't' then some '\t'
  else none

/-! ### Ends of values -/

/-- The tree of a text that breaks, from its innermost part out. -/
def collapse : Tree → List Frame → Tree
  | t, [] => t
  | t, .array items :: below => collapse (.array (t :: items).reverse .broken) below
  | t, .member members key :: below =>
    collapse (.object ((key, t) :: members).reverse .broken) below
  | t, .members members :: below =>
    collapse (.object ((.misplaced, t) :: members).reverse .broken) below

/-- The tree of a text that breaks between two parts of its innermost array or object. -/
def collapseOpen : List Frame → Tree
  | [] => .broken
  | .array items :: below => collapse (.array items.reverse .broken) below
  | .member members key :: below =>
    collapse (.object ((key, .broken) :: members).reverse .broken) below
  | .members members :: below => collapse (.object members.reverse .broken) below

/-- The state after a value. One that stands in place of a first key is kept, but the scan ends. -/
def emit (stack : List Frame) (t : Tree) : State :=
  match stack with
  | [] => .past t true
  | .array items :: below => .between (.array (t :: items) :: below) .next
  | .member members key :: below => .between (.members ((key, t) :: members) :: below) .next
  | .members _ :: _ => .stopped (collapse t stack)

/-- The state after a break where a value should stand. -/
def stop (stack : List Frame) : State := .stopped (collapse .broken stack)

/-- The state after a break where no value should stand. -/
def stopOpen (stack : List Frame) : State := .stopped (collapseOpen stack)

/-! ### Numerals -/

/-- The value of a decimal digit. -/
def digit? (c : Char) : Option Nat :=
  if '0' ≤ c ∧ c ≤ '9' then some (c.toNat - 48) else none

/-- Whether a numeral may end at a stage. -/
def Stage.mayEnd : Stage → Bool
  | .zero | .whole | .places | .power => true
  | _ => false

/-- The numeral that was read. -/
def Digits.numeral (d : Digits) : Numeral :=
  { negative := d.negative
    whole := d.whole.reverse
    places := d.places.map List.reverse
    exponent := d.exponent.map fun (n, ds) => ⟨n, ds.reverse⟩ }

/-- The digits and stage after a digit; none where a digit may not stand. -/
def Digits.digit (d : Digits) (n : Nat) : Stage → Option (Digits × Stage)
  | .sign => some ({ d with whole := [n] }, if n = 0 then .zero else .whole)
  | .zero => none
  | .whole => some ({ d with whole := n :: d.whole }, .whole)
  | .point | .places => some ({ d with places := some (n :: d.places.getD []) }, .places)
  | .mark | .markSign | .power =>
    let (negative, ds) := d.exponent.getD (false, [])
    some ({ d with exponent := some (negative, n :: ds) }, .power)

/-- The digits and stage after a character that is no digit but belongs to the numeral. -/
def Digits.sign? (d : Digits) (c : Char) : Stage → Option (Digits × Stage)
  | .zero | .whole =>
    if c = '.' then some (d, .point)
    else if c = 'e' ∨ c = 'E' then some ({ d with exponent := some (false, []) }, .mark)
    else none
  | .places =>
    if c = 'e' ∨ c = 'E' then some ({ d with exponent := some (false, []) }, .mark) else none
  | .mark =>
    if c = '+' then some (d, .markSign)
    else if c = '-' then some ({ d with exponent := some (true, []) }, .markSign)
    else none
  | _ => none

/-! ### Steps -/

/-- Blanks between tokens. -/
def isSpace (c : Char) : Bool := c = ' ' || c = '\t' || c = '\n' || c = '\r'

/-- The state after the first character of a value. -/
def beginValue (stack : List Frame) (c : Char) : State :=
  if c = '"' then .inString stack false [] .none
  else if c = '[' then .between (.array [] :: stack) .firstItem
  else if c = '\x7b' then .between (.members [] :: stack) .firstKey
  else if c = '-' then .inNumeral stack ⟨true, [], none, none⟩ .sign
  else if c = 'n' then .inWord stack ['u', 'l', 'l'] .null
  else if c = 't' then .inWord stack ['r', 'u', 'e'] (.bool true)
  else if c = 'f' then .inWord stack ['a', 'l', 's', 'e'] (.bool false)
  else match digit? c with
    | some n => .inNumeral stack ⟨false, [n], none, none⟩ (if n = 0 then .zero else .whole)
    | none => stop stack

/-- The state after a character behind a value. -/
def afterValue (stack : List Frame) (c : Char) : State :=
  match stack with
  | .array items :: below =>
    if c = ',' then .between (.array items :: below) .value
    else if c = ']' then emit below (.array items.reverse .closed)
    else stopOpen stack
  | .members members :: below =>
    if c = ',' then .between (.members members :: below) .key
    else if c = '\x7d' then emit below (.object members.reverse .closed)
    else stopOpen stack
  | _ => stopOpen stack

/-- The state after a character between tokens. -/
def stepBetween (stack : List Frame) (place : Place) (c : Char) : State :=
  if isSpace c then .between stack place
  else match place, stack with
    | .value, _ => beginValue stack c
    | .firstItem, .array items :: below =>
      if c = ']' then emit below (.array items.reverse .closed) else beginValue stack c
    | .firstKey, .members members :: below =>
      if c = '\x7d' then emit below (.object members.reverse .closed)
      else if c = '"' then .inString stack true [] .none
      else beginValue stack c
    | .key, _ => if c = '"' then .inString stack true [] .none else stopOpen stack
    | .colon key, .members members :: below =>
      let opened := .member members key :: below
      if c = ':' then .between opened .value else stop opened
    | .next, _ => afterValue stack c
    | _, _ => stopOpen stack

/-- The state after a token ended before a character that is not its own. -/
def stepPast (root : Tree) (whole : Bool) (c : Char) : State :=
  .past root (whole && isSpace c)

/-- The state after a string ends. -/
def endString (stack : List Frame) (asKey : Bool) (pieces : List Piece) : State :=
  let text := (textOf? pieces.reverse).map String.ofList
  if asKey then .between stack (.colon ((text.map Key.text).getD .malformed))
  else emit stack (.string text)

/-- The state after a break inside a string. -/
def stopString (stack : List Frame) (asKey : Bool) : State :=
  if asKey then stopOpen stack else stop stack

/-- The state after a character of a string. -/
def stepString (stack : List Frame) (asKey : Bool) (pieces : List Piece) (escape : Escape)
    (c : Char) : State :=
  match escape with
  | .none =>
    if c = '"' then endString stack asKey pieces
    else if c = '\\' then .inString stack asKey pieces .begun
    else if c.toNat < 0x20 then stopString stack asKey
    else .inString stack asKey (.char c :: pieces) .none
  | .begun =>
    if c = 'u' then .inString stack asKey pieces (.digits 4 0)
    else match simpleEscape? c with
      | some d => .inString stack asKey (.char d :: pieces) .none
      | none => stopString stack asKey
  | .digits left read =>
    match hexValue? c with
    | none => stopString stack asKey
    | some n =>
      let value := 16 * read + n
      if left ≤ 1 then .inString stack asKey (.unit value :: pieces) .none
      else .inString stack asKey pieces (.digits (left - 1) value)

/-- The state after a character that follows a whole value. -/
def resume (state : State) (c : Char) : State :=
  match state with
  | .between stack place => stepBetween stack place c
  | .past root whole => stepPast root whole c
  | other => other

/-- The state after a character inside a numeral. -/
def stepNumeral (stack : List Frame) (digits : Digits) (stage : Stage) (c : Char) : State :=
  let next := match digit? c with
    | some n => digits.digit n stage
    | none => digits.sign? c stage
  match next with
  | some (more, stage') => .inNumeral stack more stage'
  | none =>
    if stage.mayEnd && (digit? c).isNone then
      resume (emit stack (.number digits.numeral.value?)) c
    else stop stack

/-- The state after a character inside one of the words. -/
def stepWord (stack : List Frame) (rest : List Char) (word : Tree) (c : Char) : State :=
  match rest with
  | [] => resume (emit stack word) c
  | [last] => if c = last then emit stack word else stop stack
  | next :: more => if c = next then .inWord stack more word else stop stack

/-- The state after a break, wherever the scan stands. -/
def breakOff : State → State
  | .between stack .value | .between stack .firstItem => stop stack
  | .between (.members members :: below) (.colon key) => stop (.member members key :: below)
  | .between stack _ => stopOpen stack
  | .inString stack asKey _ _ => stopString stack asKey
  | .inNumeral stack _ _ | .inWord stack _ _ => stop stack
  | .past root _ => .past root false
  | .stopped root => .stopped root

/-- The state after one character of the text, `none` being bytes that are no character. They may
stand in a string, which then has no text. -/
def step (state : State) : Option Char → State
  | some c =>
    match state with
    | .between stack place => stepBetween stack place c
    | .inString stack asKey pieces escape => stepString stack asKey pieces escape c
    | .inNumeral stack digits stage => stepNumeral stack digits stage c
    | .inWord stack rest word => stepWord stack rest word c
    | .past root whole => stepPast root whole c
    | .stopped root => .stopped root
  | none =>
    match state with
    | .inString stack asKey pieces .none => .inString stack asKey (.stray :: pieces) .none
    | .inNumeral stack digits stage =>
      if stage.mayEnd then breakOff (emit stack (.number digits.numeral.value?)) else stop stack
    | other => breakOff other

/-- The state before a text. -/
def start : State := .between [] .value

/-- The document of a text that ends in a state. -/
def finish (state : State) : Document :=
  match state with
  | .past root whole => ⟨root, whole⟩
  | .inNumeral stack digits stage =>
    if stage.mayEnd then
      match emit stack (.number digits.numeral.value?) with
      | .past root whole => ⟨root, whole⟩
      | .between open_ _ => ⟨collapseOpen open_, false⟩
      | .stopped root => ⟨root, false⟩
      | _ => ⟨.broken, false⟩
    else ⟨collapse .broken stack, false⟩
  | other =>
    match breakOff other with
    | .past root whole => ⟨root, whole⟩
    | .stopped root => ⟨root, false⟩
    | _ => ⟨.broken, false⟩

end Scanner

/-- The document of a text, `none` standing for bytes that are no character. -/
def Document.scan (text : List (Option Char)) : Document :=
  Scanner.finish (text.foldl Scanner.step Scanner.start)

/-- The document of a text. -/
def Document.ofString (s : String) : Document := Document.scan (s.toList.map some)

end MetricWatch.Json
