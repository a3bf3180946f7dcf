import MetricWatch.Json.Shape
import MetricWatch.Json.Fault
import MetricWatch.Json.Scanner
import MetricWatch.Text.Utf8

/-!
# Reading JSON in a shape

`Shape.read` reads a tree in a shape. The tree is walked in the order of the text and the first
fault met is the answer, so a wrong type before a break is reported as a wrong type. A tree can
come from a text, from a value or from a settings table; the three routes differ in what repeated
keys, surplus list elements and deep nesting mean.
-/

namespace MetricWatch.Json

/-- Where a tree comes from. -/
inductive Route
  | text
  | value
  | table
  deriving DecidableEq, Repr

/-- The nesting that a text may have, counted from its root. -/
def nestingLimit : Nat := 128

/-- The nesting left inside an array or object. Only a text is limited. -/
def Route.descend (route : Route) (room : Nat) : Except Fault Nat :=
  if route = .text ∧ room ≤ 1 then .error .malformed else .ok (room - 1)

/-- What remains to be said at the end of an array or object. -/
def Ending.check : Ending → Except Fault Unit
  | .closed => .ok ()
  | .broken => .error .malformed

/-! ### Any value -/

mutual
/-- The value of a tree, the last of equal keys winning. -/
def Tree.toValue (route : Route) (room : Nat) : Tree → Except Fault Value
  | .null => .ok .null
  | .bool b => .ok (.bool b)
  | .number (some n) => .ok (.number n)
  | .number none => .error .malformed
  | .string (some s) => .ok (.string s)
  | .string none => .error .malformed
  | .array items ending => do
    let room ← route.descend room
    let values ← Tree.toValues route room items
    ending.check
    .ok (.array values)
  | .object members ending => do
    let room ← route.descend room
    let values ← Tree.toMembers route room members
    ending.check
    .ok (.object (Members.ofList values))
  | .broken => .error .malformed

/-- The values of a list of trees. -/
def Tree.toValues (route : Route) (room : Nat) : List Tree → Except Fault (List Value)
  | [] => .ok []
  | t :: rest => do
    let v ← Tree.toValue route room t
    let vs ← Tree.toValues route room rest
    .ok (v :: vs)

/-- The members of an object as values. -/
def Tree.toMembers (route : Route) (room : Nat) :
    List (Key × Tree) → Except Fault (List (String × Value))
  | [] => .ok []
  | (.text key, t) :: rest => do
    let v ← Tree.toValue route room t
    let vs ← Tree.toMembers route room rest
    .ok ((key, v) :: vs)
  | _ :: _ => .error .malformed
end

/-! ### Scalars -/

/-- A reader of one shape: from the nesting left and a tree to data. -/
abbrev Reader := Nat → Tree → Except Fault Datum

/-- Reads a truth value. -/
def readBool : Reader
  | _, .bool b => .ok (.bool b)
  | _, t => .error (t.mismatch "a boolean")

/-- Reads a text. -/
def readText : Reader
  | _, .string (some s) => .ok (.text s)
  | _, t => .error (t.mismatch "a string")

/-- Reads a floating point number. -/
def readFloat : Reader
  | _, .number (some n) => .ok (.float n.toBinary64)
  | _, t => .error (t.mismatch "f64")

/-- Reads a signed integer of 64 bits. -/
def readInt64 : Reader
  | _, .number (some (.nat n)) =>
    if n < Nat.pow 2 63 then .ok (.int n) else .error (.wrongValue (.integer n) "i64")
  | _, .number (some (.neg n)) => .ok (.int n)
  | _, t => .error (t.mismatch "i64")

/-- Reads an unsigned integer of 64 bits. -/
def readNat64 (want : String) : Reader
  | _, .number (some (.nat n)) => .ok (.int n)
  | _, .number (some (.neg n)) => .error (.wrongValue (.integer n) want)
  | _, t => .error (t.mismatch want)

/-- Reads one of some names. -/
def chooseName (names : List String) (s : String) : Except Fault Datum :=
  if s ∈ names then .ok (.text s) else .error (.unknownName s names)

/-- Reads the null that may follow a name. -/
def readUnit : Tree → Except Fault Unit
  | .null => .ok ()
  | t => .error (t.mismatch "unit")

/-- Reads a name, which stands alone or as the only key of an object whose value is null. -/
def readName (route : Route) (names : List String) : Reader
  | _, .string (some s) => chooseName names s
  | room, .object members ending => do
    let _ ← route.descend room
    match members with
    | [] => .error (if route = .text then .malformed else .wrongValue .map "map with a single key")
    | (.malformed, _) :: _ => .error .malformed
    | (.misplaced, t) :: _ => .error (t.mismatch "variant identifier")
    | (.text key, t) :: rest =>
      if route ≠ .text ∧ rest ≠ [] then
        .error (.wrongValue .map "map with a single key")
      else
        let d ← chooseName names key
        readUnit t
        if rest ≠ [] then .error .malformed
        ending.check
        .ok d
  | _, t => .error (if route = .text then .malformed else t.mismatch "string or map")

/-! ### Lists and maps -/

/-- Reads all the trees of a list. -/
def readAll (read : Tree → Except Fault Datum) : List Tree → Except Fault (List Datum)
  | [] => .ok []
  | t :: rest => do
    let d ← read t
    let ds ← readAll read rest
    .ok (d :: ds)

/-- Reads a list. -/
def readList (route : Route) (item : Reader) : Reader
  | room, .array items ending => do
    let room ← route.descend room
    let ds ← readAll (item room) items
    ending.check
    .ok (.list ds)
  | _, t => .error (t.mismatch "a sequence")

/-- Reads the members of a map. -/
def readEntries (read : Tree → Except Fault Datum) :
    List (Key × Tree) → Except Fault (List (String × Datum))
  | [] => .ok []
  | (.text key, t) :: rest => do
    let d ← read t
    let ds ← readEntries read rest
    .ok ((key, d) :: ds)
  | _ :: _ => .error .malformed

/-- Reads a map, the last of equal keys winning. -/
def readMap (route : Route) (item : Reader) : Reader
  | room, .object members ending => do
    let room ← route.descend room
    let ds ← readEntries (item room) members
    ending.check
    .ok (.map (Members.ofList ds))
  | _, t => .error (t.mismatch "a map")

/-- Reads null or something. -/
def readNullable (inner : Reader) : Reader
  | _, .null => .ok .none
  | room, t => inner room t

/-! ### Records -/

/-- How one part of a record is read. -/
structure FieldReader where
  key : String
  read : Reader
  absence : Absence

/-- The data of a part that is not given. -/
def FieldReader.whenAbsent (field : FieldReader) : Except Fault Datum :=
  match field.absence with
  | .required => .error (.missing field.key)
  | .filled d => .ok d
  | .omitted => .ok .none

/-- Reads the members of an object into the slots of a record's parts. A key that is no part is
passed over, and a text must not give a part twice. -/
def fillSlots (route : Route) (fields : List FieldReader) (room : Nat) :
    List (Key × Tree) → List (Option Datum) → Except Fault (List (Option Datum))
  | [], slots => .ok slots
  | (.text key, t) :: rest, slots =>
    match fields.findIdx? fun f => f.key == key with
    | none => if t.intact then fillSlots route fields room rest slots else .error .malformed
    | some i =>
      match fields[i]?, slots[i]? with
      | some field, some slot =>
        if route = .text ∧ slot.isSome then .error (.repeated key)
        else do
          let d ← field.read room t
          fillSlots route fields room rest (slots.set i (some d))
      | _, _ => .error .malformed
  | _ :: _, _ => .error .malformed

/-- The parts of a record from their slots; the first part that is missing is the fault. -/
def closeSlots : List FieldReader → List (Option Datum) → Except Fault (List Datum)
  | field :: fields, slot :: slots => do
    let d ← match slot with
      | some d => .ok d
      | none => field.whenAbsent
    let ds ← closeSlots fields slots
    .ok (d :: ds)
  | _, _ => .ok []

/-- Reads the elements of a list as the parts of a record, from a position on. Trailing parts
with a default may be missing. -/
def readParts (want : String) (ending : Ending) (room : Nat) :
    Nat → List FieldReader → List Tree → Except Fault (List Datum × List Tree)
  | _, [], items => .ok ([], items)
  | n, field :: fields, t :: items => do
    let d ← field.read room t
    let (ds, rest) ← readParts want ending room (n + 1) fields items
    .ok (d :: ds, rest)
  | n, field :: fields, [] => do
    ending.check
    let d ← match field.absence with
      | .required => .error (.wrongLength n want)
      | .filled d => .ok d
      | .omitted => .ok .none
    let (ds, rest) ← readParts want ending room (n + 1) fields []
    .ok (d :: ds, rest)

/-- What surplus elements behind a record's parts mean. -/
def checkSurplus (route : Route) (length : Nat) (ending : Ending) (surplus : List Tree) :
    Except Fault Unit := do
  match route with
  | .text => if surplus.isEmpty then ending.check else .error .malformed
  | .value =>
    if surplus.isEmpty then .ok () else .error (.wrongLength length "fewer elements in array")
  | .table => .ok ()

/-- The wording of a record's title. -/
def recordTitle (title : String) : String := "struct " ++ title

/-- The wording of a record's length. -/
def recordLength (title : String) (length : Nat) : String :=
  recordTitle title ++ " with " ++ toString length ++ (if length = 1 then " element" else " elements")

/-- Reads a record from an object. -/
def readObject (route : Route) (title : String) (fields : List FieldReader) : Reader
  | room, .object members ending => do
    let room ← route.descend room
    let slots ← fillSlots route fields room members (fields.map fun _ => none)
    ending.check
    let parts ← closeSlots fields slots
    .ok (.record parts)
  | _, t => .error (t.mismatch (recordTitle title))

/-- Reads a record, from an object or from a list of its parts. -/
def readRecord (route : Route) (title : String) (fields : List FieldReader) : Reader
  | room, .array items ending => do
    let room ← route.descend room
    let (parts, surplus) ←
      readParts (recordLength title fields.length) ending room 0 fields items
    checkSurplus route items.length ending surplus
    .ok (.record parts)
  | room, t => readObject route title fields room t

/-! ### Tagged contents -/

/-- How far the members of a tagged content are read: its name, and its content as read or as it
stands while the name is not known yet. -/
structure TagProgress where
  name : Option Datum
  kept : Option Tree
  content : Option Datum

/-- Reads the members of a tagged content. The content waits for its name. -/
def readTaggedMembers (route : Route) (tag content : String) (readTag inner : Tree → Except Fault Datum)
    (keep : Tree → Except Fault Unit) :
    List (Key × Tree) → TagProgress → Except Fault TagProgress
  | [], progress => .ok progress
  | (.text key, t) :: rest, progress =>
    if key = tag then
      if progress.name.isSome then .error (.repeated tag)
      else do
        let name ← readTag t
        let content' ← match progress.kept with
          | some kept => do
            let d ← inner kept
            .ok (some d)
          | none => .ok none
        readTaggedMembers route tag content readTag inner keep rest
          { progress with name := some name, content := content' }
    else if key = content then
      if progress.kept.isSome ∨ progress.content.isSome then .error (.repeated content)
      else if progress.name.isSome then do
        let d ← inner t
        readTaggedMembers route tag content readTag inner keep rest
          { progress with content := some d }
      else do
        keep t
        readTaggedMembers route tag content readTag inner keep rest { progress with kept := some t }
    else if t.intact then readTaggedMembers route tag content readTag inner keep rest progress
    else .error .malformed
  | _ :: _, _ => .error .malformed

/-- The wording of a tagged content's title. -/
def taggedTitle (title : String) : String := "adjacently tagged enum " ++ title

/-- Reads a tagged content, from an object or from a list of name and content. -/
def readTagged (route : Route) (title tag content : String) (names : List String)
    (inner : Reader) : Reader
  | room, .object members ending => do
    let room ← route.descend room
    let progress ← readTaggedMembers route tag content (readName route names room) (inner room)
      (fun t => do let _ ← t.toValue route room; .ok ()) members ⟨none, none, none⟩
    ending.check
    match progress.name, progress.content with
    | none, _ => .error (.missing tag)
    | _, none => .error (.missing content)
    | some name, some d => .ok (.record [name, d])
  | room, .array items ending => do
    let room ← route.descend room
    let (parts, surplus) ← readParts (taggedTitle title) ending room 0
      [⟨tag, readName route names, .required⟩, ⟨content, inner, .required⟩] items
    checkSurplus route items.length ending surplus
    .ok (.record parts)
  | _, t => .error (t.mismatch (taggedTitle title))

/-! ### Alternatives and checks -/

/-- Reads the first alternative that fits. The tree must be readable as a value at all. -/
def readEither (route : Route) (title : String) (first second : Reader) : Reader
  | room, t => do
    let _ ← t.toValue route room
    match first room t with
    | .ok d => .ok (.first d)
    | .error _ =>
      match second room t with
      | .ok d => .ok (.second d)
      | .error _ => .error (.noAlternative title)

/-- Reads data in a raw shape and checks it. -/
def readChecked (raw : Reader) (check : Datum → Except String Datum) : Reader
  | room, t => do
    let d ← raw room t
    match check d with
    | .ok d' => .ok d'
    | .error text => .error (.rejected text)

/-! ### Shapes -/

mutual
/-- The reader of a shape. -/
def Shape.reader (route : Route) : Shape → Reader
  | .bool => readBool
  | .text => readText
  | .float => readFloat
  | .int64 => readInt64
  | .nat64 want => readNat64 want
  | .any => fun room t => do
    let v ← t.toValue route room
    .ok (.value v)
  | .name names => readName route names
  | .list item => readList route (item.reader route)
  | .map item => readMap route (item.reader route)
  | .nullable inner => readNullable (inner.reader route)
  | .record title fields => readRecord route title (fields.readers route)
  | .object title fields => readObject route title (fields.readers route)
  | .tagged title tag content names inner =>
    readTagged route title tag content names (inner.reader route)
  | .either title first second => readEither route title (first.reader route) (second.reader route)
  | .checked raw check _ => readChecked (raw.reader route) check

/-- The readers of a record's parts. -/
def Fields.readers (route : Route) : Fields → List FieldReader
  | .done => []
  | .field key shape absence rest => ⟨key, shape.reader route, absence⟩ :: rest.readers route
end

/-- Data in a shape from a tree of a text. -/
def Shape.readDocument (shape : Shape) (doc : Document) : Except Fault Datum := do
  let d ← shape.reader .text nestingLimit doc.root
  if doc.whole then .ok d else .error .malformed

/-- Data in a shape from a text, `none` standing for bytes that are no character. -/
def Shape.readText (shape : Shape) (text : List (Option Char)) : Except Fault Datum :=
  shape.readDocument (Document.scan text)

/-- Data in a shape from a value. -/
def Shape.readValue (shape : Shape) (v : Value) : Except Fault Datum :=
  shape.reader .value nestingLimit v.toTree

/-- The value of a text. -/
def Value.ofText (text : List (Option Char)) : Except Fault Value := do
  let doc := Document.scan text
  let v ← doc.root.toValue .text nestingLimit
  if doc.whole then .ok v else .error .malformed

end MetricWatch.Json
