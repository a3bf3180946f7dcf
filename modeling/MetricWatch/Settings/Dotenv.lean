import MetricWatch.Settings.Environment
import MetricWatch.Settings.Files

/-!
# Variables from a file

A file named `.env`, in the current directory or the nearest one above, sets variables that are
not set yet. A line is a name, an equals sign and a value; the value may be quoted, may go on over
lines while a quote is open, and may refer to variables after a dollar sign. Reading stops at the
first line that is wrong, and what was set before stays set.
-/

namespace MetricWatch.Dotenv

open Json (Members)

/-! ### Values -/

/-- How a reference to a variable is being read. -/
inductive Reference
  | none
  | bare
  | braced
  deriving DecidableEq, Repr

/-- How far a value is read; `name` and `out` are latest first. -/
structure Reading where
  inSingle : Bool := false
  inDouble : Bool := false
  escaped : Bool := false
  ended : Bool := false
  reference : Reference := .none
  name : List Char := []
  out : List Char := []

/-- Values of variables by name. -/
abbrev Known := String → String

/-- Puts the value of the variable that was named in its place. -/
def Reading.resolve (r : Reading) (known : Known) : Reading :=
  let value := known (String.ofList r.name.reverse)
  { r with name := [], out := value.toList.reverse ++ r.out }

/-- A character of the value itself. -/
def Reading.push (r : Reading) (c : Char) : Reading := { r with out := c :: r.out }

/-- What reading a character leads to. -/
inductive Next
  | more (r : Reading)
  | done
  | fault

/-- Reads a character while a reference is read. -/
def Reading.inReference (r : Reading) (known : Known) (c : Char) : Reading :=
  if c.isAlphanum then { r with name := c :: r.name }
  else match r.reference with
    | .none => r
    | .bare =>
      if c = '\x7b' ∧ r.name.isEmpty then { r with reference := .braced }
      else
        let r := r.resolve known
        if c = '$' then { r with reference := .bare }
        else ({ r with reference := .none } : Reading).push c
    | .braced =>
      if c = '\x7d' then ({ r with reference := .none } : Reading).resolve known
      else { r with name := c :: r.name }

/-- Reads a character behind a backslash. -/
def Reading.unescape (r : Reading) (c : Char) : Next :=
  let r := { r with escaped := false }
  if "\\'\"$ ".toList.contains c then .more (r.push c)
  else if c = 'n' then .more (r.push '\n')
  else .fault

/-- Reads a character outside of quotes. -/
def Reading.plain (r : Reading) (c : Char) : Reading :=
  if c = '\'' then { r with inSingle := true }
  else if c = '"' then { r with inDouble := true }
  else if c = '\\' then { r with escaped := true }
  else if c = ' ' ∨ c = '\t' then { r with ended := true }
  else r.push c

/-- Reads a character. -/
def Reading.next (r : Reading) (known : Known) (c : Char) : Next :=
  if r.ended then
    if c = ' ' ∨ c = '\t' then .more r else if c = '#' then .done else .fault
  else if r.escaped then r.unescape c
  else if r.inSingle then
    .more (if c = '\'' then { r with inSingle := false } else r.push c)
  else if r.reference ≠ .none then .more (r.inReference known c)
  else if c = '$' then .more { r with reference := .bare }
  else if r.inDouble then
    .more
      (if c = '"' then { r with inDouble := false }
      else if c = '\\' then { r with escaped := true }
      else r.push c)
  else .more (r.plain c)

/-- Reads characters to the end or to a comment. -/
def Reading.run (known : Known) : Reading → List Char → Option Reading
  | r, [] => some r
  | r, c :: rest =>
    match r.next known c with
    | .more r => run known r rest
    | .done => some r
    | .fault => none

/-- The value that a text spells. -/
def value? (known : Known) (cs : List Char) : Option String :=
  match Reading.run known {} cs with
  | none => none
  | some r =>
    if r.reference = .braced ∨ r.inSingle ∨ r.inDouble then none
    else some (String.ofList (r.resolve known).out.reverse)

/-! ### Lines -/

/-- What a line says: nothing, or a name and a value. -/
abbrev Line := Option (String × String)

/-- Characters of a name after its first. -/
def isNameChar (c : Char) : Bool := c.isAlphanum || c = '_' || c = '.'

/-- A name, and what follows it. -/
def name? : List Char → Option (List Char × List Char)
  | [] => none
  | c :: rest =>
    if c.isAlpha ∨ c = '_' then
      some ((c :: rest).takeWhile isNameChar, (c :: rest).dropWhile isNameChar)
    else none

/-- A text without blank characters in front. -/
def skipBlank (cs : List Char) : List Char := cs.dropWhile Text.isBlankChar

/-- What follows an equals sign. -/
def afterEquals? : List Char → Option (List Char)
  | '=' :: rest => some rest
  | _ => none

/-- The name of a line and the text of its value. The word `export` may stand in front. -/
def assignment? (cs : List Char) : Option (List Char × List Char) := do
  let (key, rest) ← name? cs
  let rest := skipBlank rest
  match afterEquals? rest with
  | some value => some (key, skipBlank value)
  | none =>
    if key = "export".toList then
      let (key, rest) ← name? rest
      let value ← afterEquals? (skipBlank rest)
      some (key, skipBlank value)
    else none

/-- What a line says, if it says anything right. -/
def line? (known : Known) (s : List Char) : Option Line :=
  let cs := skipBlank (Text.trimList s)
  if cs.isEmpty ∨ cs.head? = some '#' then some none
  else do
    let (key, text) ← assignment? cs
    let key := String.ofList key
    if text.isEmpty ∨ text.head? = some '#' then some (some (key, ""))
    else do
      let value ← value? known text
      some (some (key, value))

/-! ### Lines that go on -/

/-- Where the end of a text stands. -/
inductive Place
  | plain
  | escape
  | single
  | singleEscape
  | double
  | doubleEscape
  | comment
  | blank
  deriving DecidableEq, Repr

/-- Where a text stands after a character outside of quotes. -/
def Place.outside (c : Char) : Place :=
  if c = '\\' then .escape
  else if c = '"' then .double
  else if c = '\'' then .single
  else .plain

/-- Where a text stands after another character. -/
def Place.next : Place → Char → Place
  | .blank, c => if c = '#' then .comment else .outside c
  | .escape, _ => .plain
  | .plain, c =>
    if Text.isBlankChar c ∧ c ≠ '\n' ∧ c ≠ '\r' then .blank else .outside c
  | .double, c => if c = '\\' then .doubleEscape else if c = '"' then .plain else .double
  | .doubleEscape, _ => .double
  | .single, c => if c = '\\' then .singleEscape else if c = '\'' then .plain else .single
  | .singleEscape, _ => .single
  | .comment, _ => .comment

/-- Text up to a comment, and where its end stands. -/
def upToComment : Place → List Char → List Char × Place
  | place, [] => ([], place)
  | place, c :: rest =>
    match place.next c with
    | .comment => ([], .comment)
    | place =>
      let (front, last) := upToComment place rest
      (c :: front, last)

/-- A text without the end of its line. -/
def withoutEnd (cs : List Char) : List Char :=
  match cs.reverse with
  | '\n' :: '\r' :: rest => rest.reverse
  | '\n' :: rest => rest.reverse
  | _ => cs

/-- The lines of a text with their ends. -/
def rawLines : List (Option Char) → List (List (Option Char))
  | [] => []
  | some '\n' :: rest => [some '\n'] :: rawLines rest
  | c :: rest =>
    match rawLines rest with
    | [] => [[c]]
    | first :: more => (c :: first) :: more

/-- A logical line, or a fault. -/
abbrev Joined := Option (List Char)

/-- The logical lines of raw ones, given what was read of one so far and where that ends. A fault
ends them. -/
def join : List Char → Place → List (List (Option Char)) → List Joined
  | _, .plain, [] => []
  | _, _, [] => [none]
  | before, place, raw :: rest =>
    match raw.mapM id with
    | none => [none]
    | some line =>
      let whole := before ++ line
      if (skipBlank whole).head? = some '#' then some [] :: join [] .plain rest
      else
        let (front, last) := upToComment place line
        match last with
        | .plain => some (withoutEnd whole) :: join [] .plain rest
        | .comment => some (before ++ front) :: join [] .plain rest
        | last => join whole last rest

/-! ### Files -/

/-- The value of a variable for references: that of the environment, or the one last read. -/
def knownIn (env : Environment) (values : Members String) : Known := fun key =>
  match env.text? key with
  | some s => s
  | none => (values.get? key).getD ""

/-- The environment after logical lines; also whether all of them were right. -/
def applyLines : Environment → Members String → List Joined → Environment × Bool
  | env, _, [] => (env, true)
  | env, _, none :: _ => (env, false)
  | env, values, some s :: rest =>
    match line? (knownIn env values) s with
    | none => (env, false)
    | some none => applyLines env values rest
    | some (some (key, value)) =>
      let env := if (env.text? key).isSome then env else env.put key (Text.Utf8.encode value)
      applyLines env (values.put key value) rest

/-- The environment after the contents of a file. -/
def apply (env : Environment) (bytes : List UInt8) : Environment × Bool :=
  let bytes := match bytes with
    | 0xef :: 0xbb :: 0xbf :: rest => rest
    | bytes => bytes
  applyLines env [] (join [] .plain (rawLines (Text.Utf8.decode bytes)))

/-- The name of the file. -/
def fileName : String := ".env"

/-- The contents of the file in the nearest directory that has one, the place being given by its
parts from the innermost on. -/
def find? (files : Files) : List String → Option (List UInt8)
  | [] => here []
  | part :: above =>
    match here (part :: above).reverse with
    | some bytes => some bytes
    | none => find? files above
where
  /-- The contents of the file in a directory. -/
  here (place : List String) : Option (List UInt8) :=
    match files.entryAt? (place ++ [fileName]) with
    | some (.file bytes) => some bytes
    | _ => none

/-- The environment after the nearest file, and whether there was one and it was right. -/
def load (files : Files) (env : Environment) : Environment × Bool :=
  match find? files files.current.reverse with
  | some bytes => apply env bytes
  | none => (env, false)

end MetricWatch.Dotenv
