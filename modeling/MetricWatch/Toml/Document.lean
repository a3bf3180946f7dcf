import MetricWatch.Toml.Token
import MetricWatch.Toml.Scalar
import MetricWatch.Toml.Table

/-!
# Documents of TOML

A document is read token by token. The open arrays and inline tables are kept on a stack above the
entry that they belong to, and a finished value is handed to what waits for it. The result is the
tree of the whole document, or nothing if the text is not TOML.
-/

namespace MetricWatch.Toml

open Json (Tree)

namespace Document

/-! ### The state of a reading -/

/-- What waits for a value: an entry of the document, an array, an inline table between its
entries, or an entry of one. -/
inductive Frame
  | entry (path : List String) (key : String)
  | array (items : List Tree)
  | inline (entries : Entries)
  | member (entries : Entries) (path : List String) (key : String)

/-- What a key that is being read is for. -/
inductive Purpose
  | entry
  | member (entries : Entries)
  | header
  | arrayHeader

/-- What may stand next. The parts of a key are kept latest first. -/
inductive Place
  | lineStart
  | lineEnd
  | headerStart
  | headerEnd (path : List String) (key : String)
  | keyPart (purpose : Purpose) (before : List String)
  | keyEnd (purpose : Purpose) (before : List String) (key : String)
  | value
  | itemOrClose
  | memberOrClose (entries : Entries)
  | afterItem
  | bare (text : List Char)
  | gap (text : List Char)

/-- The document so far, the path of its open table, the open values and what may stand next. -/
structure State where
  entries : Entries
  header : List String
  stack : List Frame
  place : Place

/-- How many arrays and inline tables may be open at once. -/
def depthLimit : Nat := 80

/-! ### Values -/

/-- The state after a finished value. -/
def State.deliver (s : State) (t : Tree) : Option State :=
  match s.stack with
  | .entry path key :: below => do
    let entries ← s.entries.within s.header (Entries.insert path key t true)
    some { s with entries := entries, stack := below, place := .lineEnd }
  | .array items :: below => some { s with stack := .array (t :: items) :: below, place := .afterItem }
  | .member entries path key :: below => do
    let entries ← entries.insert path key t true
    some { s with stack := .inline entries :: below, place := .afterItem }
  | _ => none

/-- The state after an array or inline table is opened. -/
def State.enter (s : State) (frames : List Frame) (place : Place) : Option State :=
  if s.stack.length ≤ depthLimit then
    some { s with stack := frames ++ s.stack, place := place }
  else none

/-- The state after the innermost array is closed. -/
def State.closeArray (s : State) : Option State :=
  match s.stack with
  | .array items :: below => { s with stack := below }.deliver (.array items.reverse .closed)
  | _ => none

/-- The state after an inline table is closed. -/
def State.closeInline (s : State) (entries : Entries) : Option State := s.deliver entries.toTree

/-- The state after the first token of a value. -/
def State.beginValue (s : State) (t : Token) : Option State :=
  match t with
  | .quoted text | .paragraph text => s.deliver (.string (some (String.ofList text)))
  | .bare text => some { s with place := .bare text }
  | .dot => some { s with place := .bare ['.'] }
  | .openBracket => s.enter [.array []] .itemOrClose
  | .openBrace => s.enter [] (.memberOrClose [])
  | _ => none

/-! ### Keys -/

/-- The key of a token. -/
def key? (t : Token) : Option String :=
  match t with
  | .bare text =>
    if text.all fun c => c.isAlphanum || c = '_' || c = '-' then some (String.ofList text) else none
  | .quoted text => some (String.ofList text)
  | _ => none

/-- The state after a part of a key. -/
def State.keyPart (s : State) (purpose : Purpose) (before : List String) (t : Token) :
    Option State :=
  match t with
  | .blank => some { s with place := .keyPart purpose before }
  | t => (key? t).map fun key => { s with place := .keyEnd purpose before key }

/-- The state after a token behind a part of a key. -/
def State.keyEnd (s : State) (purpose : Purpose) (before : List String) (key : String)
    (t : Token) : Option State :=
  match t, purpose with
  | .blank, _ => some s
  | .dot, _ => some { s with place := .keyPart purpose (key :: before) }
  | .equals, .entry =>
    some { s with stack := .entry before.reverse key :: s.stack, place := .value }
  | .equals, .member entries =>
    some { s with stack := .member entries before.reverse key :: s.stack, place := .value }
  | .closeBracket, .header => do
    let path := before.reverse
    let entries ← s.entries.within path (Entries.openTable key)
    some { s with entries := entries, header := path ++ [key], place := .lineEnd }
  | .closeBracket, .arrayHeader => some { s with place := .headerEnd before.reverse key }
  | _, _ => none

/-! ### Steps -/

/-- The state after a token behind an item of an array or inline table. -/
def State.afterItem (s : State) (t : Token) : Option State :=
  match t, s.stack with
  | .blank, _ | .line, _ => some s
  | .comma, .array _ :: _ => some { s with place := .itemOrClose }
  | .comma, .inline entries :: below =>
    some { s with stack := below, place := .memberOrClose entries }
  | .closeBracket, .array _ :: _ => s.closeArray
  | .closeBrace, .inline entries :: below => { s with stack := below }.closeInline entries
  | _, _ => none

/-- The state after a token that does not continue a bare value and is no tab. -/
def State.withoutTab (s : State) (t : Token) : Option State :=
  match s.place with
  | .lineStart =>
    match t with
    | .blank | .line => some s
    | .openBracket => some { s with place := .headerStart }
    | t => s.keyPart .entry [] t
  | .lineEnd =>
    match t with
    | .blank => some s
    | .line => some { s with place := .lineStart }
    | _ => none
  | .headerStart =>
    match t with
    | .openBracket => some { s with place := .keyPart .arrayHeader [] }
    | t => s.keyPart .header [] t
  | .headerEnd path key =>
    match t with
    | .closeBracket => do
      let entries ← s.entries.within path (Entries.openInArray key)
      some { s with entries := entries, header := path ++ [key], place := .lineEnd }
    | _ => none
  | .keyPart purpose before => s.keyPart purpose before t
  | .keyEnd purpose before key => s.keyEnd purpose before key t
  | .value => if t = .blank then some s else s.beginValue t
  | .itemOrClose =>
    match t with
    | .blank | .line => some s
    | .closeBracket => s.closeArray
    | t => s.beginValue t
  | .memberOrClose entries =>
    match t with
    | .blank | .line => some s
    | .closeBrace => s.closeInline entries
    | t => s.keyPart (.member entries) [] t
  | .afterItem => s.afterItem t
  | .bare _ | .gap _ => none

/-- The state after a token that does not continue a bare value. -/
def State.plain (s : State) (t : Token) : Option State :=
  s.withoutTab (if t = .tab then .blank else t)

/-- The state after a bare value ends. -/
def State.endBare (s : State) (text : List Char) : Option State := do
  let t ← Scalar.read? text
  s.deliver t

/-- The state after a token. A time may follow a date after one space. -/
def State.step (s : State) (t : Token) : Option State :=
  match s.place, t with
  | .bare text, .bare more => some { s with place := .bare (text ++ more) }
  | .bare text, .dot => some { s with place := .bare (text ++ ['.']) }
  | .bare text, .blank =>
    if Moment.looksLikeDate text then some { s with place := .gap text }
    else do
      let s ← s.endBare text
      s.plain t
  | .gap text, .bare more => some { s with place := .bare (text ++ ' ' :: more) }
  | .bare text, t | .gap text, t => do
    let s ← s.endBare text
    s.plain t
  | _, t => s.plain t

/-- The document of a text that ends in a state. -/
def State.finish (s : State) : Option Tree := do
  let s ← match s.place with
    | .bare text | .gap text => s.endBare text
    | _ => some s
  match s.place with
  | .lineStart | .lineEnd => some s.entries.toTree
  | _ => none

/-- The document of tokens. -/
def ofTokens? (tokens : List Token) : Option Tree := do
  let s ← tokens.foldlM State.step ⟨[], [], [], .lineStart⟩
  s.finish

end Document

/-- The tree of a TOML text. -/
def read? (text : String) : Option Tree := do
  let signs ← Sign.scan (dropMark text.toList)
  let tokens ← Token.scan signs
  Document.ofTokens? tokens

end MetricWatch.Toml
