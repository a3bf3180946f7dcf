import MetricWatch.Url.Host

/-!
# URLs

A URL is a scheme, perhaps an authority (who, on which host and port), a path, and perhaps a query
and a fragment. The schemes of the web are special: they always have a host, a backslash is as
good as a slash in them, and their path is never empty. In a path of segments `.` and `..` are
resolved when it is read, also where they are spelled with `%2e`.
-/

namespace MetricWatch

/-- A path: segments with a slash before each, or plain text. -/
inductive Url.Path
  | segments (list : List String)
  | plain (text : String)
  deriving DecidableEq, Repr

/-- A URL. -/
structure Url where
  scheme : String
  username : String
  password : String
  host : Option Url.Host
  port : Option Nat
  path : Url.Path
  query : Option String
  fragment : Option String
  deriving DecidableEq, Repr

namespace Url

/-! ### Schemes -/

/-- The special schemes with their ports. -/
def specialPorts : List (String × Option Nat) :=
  [("http", some 80), ("https", some 443), ("ws", some 80), ("wss", some 443), ("ftp", some 21),
    ("file", none)]

/-- Whether a scheme is special. -/
def isSpecialScheme (scheme : String) : Bool := specialPorts.any fun s => s.1 = scheme

/-- The port that a scheme has without being told. -/
def defaultPort? (scheme : String) : Option Nat :=
  (specialPorts.find? fun s => s.1 = scheme).bind Prod.snd

/-- Characters of a scheme after its first. -/
def isSchemeChar (c : Char) : Bool := c.isAlphanum || c = '+' || c = '-' || c = '.'

/-- A text's scheme, in lower case, and what follows its colon. -/
def scheme? (cs : List Char) : Option (String × List Char) :=
  match Text.cut (· = ':') cs with
  | (c :: name, some rest) =>
    if c.isAlpha ∧ name.all isSchemeChar then
      some (String.ofList ((c :: name).map Char.toLower), rest)
    else none
  | _ => none

/-! ### Authorities -/

/-- The port that digits spell: none if they spell the default one or nothing, and a fault if they
spell no port. -/
def port? (scheme : String) (cs : List Char) : Option (Option Nat) :=
  if cs.isEmpty then some none
  else if cs.all Char.isDigit then
    let n := cs.foldl (fun n c => 10 * n + (c.toNat - 48)) 0
    if 65535 < n then none else if defaultPort? scheme = some n then some none else some (some n)
  else none

/-- A host's text and the text after its colon; a colon in brackets belongs to the host. -/
def hostAndPort : List Char → List Char × Option (List Char)
  | '[' :: rest =>
    match Text.cut (· = ']') rest with
    | (inside, some after) =>
      let (more, port) := Text.cut (· = ':') after
      ('[' :: inside ++ ']' :: more, port)
    | (_, none) => ('[' :: rest, none)
  | cs => Text.cut (· = ':') cs

/-- Text before the last `@`, if there is one, and text after it. -/
def userinfo (cs : List Char) : Option (List Char) × List Char :=
  match Text.cut (· = '@') cs.reverse with
  | (_, none) => (none, cs)
  | (back, some front) => (some front.reverse, back.reverse)

/-- A user name or a password as it stands in a URL. -/
def userText (cs : List Char) : String := String.ofList (encodeSet inUserinfoSet cs)

/-- Who, on which host and port. -/
structure Authority where
  username : String
  password : String
  host : Host
  port : Option Nat

/-- The authority that a text spells. Only other schemes can do without a host, and then without
all the rest. -/
def authority? (scheme : String) (cs : List Char) : Option Authority := do
  let (user, place) := userinfo cs
  let (hostText, portText) := hostAndPort place
  let (name, password) := Text.cut (· = ':') (user.getD [])
  if hostText.isEmpty then
    if isSpecialScheme scheme ∨ user.isSome ∨ portText.isSome then none
    else some ⟨"", "", .empty, none⟩
  else
    let host ← Host.parse? (isSpecialScheme scheme) hostText
    let port ← port? scheme (portText.getD [])
    some ⟨userText name, userText (password.getD []), host, port⟩

/-! ### Paths -/

/-- Whether a segment stays where it is. -/
def isSingleDot (segment : List Char) : Bool :=
  segment = ['.'] || segment.map Char.toLower = "%2e".toList

/-- Whether a segment leads one level up. -/
def isDoubleDot (segment : List Char) : Bool :=
  ["..", ".%2e", "%2e.", "%2e%2e"].any fun s => segment.map Char.toLower = s.toList

/-- The segments, latest first, after more of them are walked. A dot segment at the end leaves an
empty one. -/
def walk : List String → List (List Char) → List String
  | done, [] => done
  | done, segment :: rest =>
    if isDoubleDot segment then
      let up := done.drop 1
      walk (if rest.isEmpty then "" :: up else up) rest
    else if isSingleDot segment then walk (if rest.isEmpty then "" :: done else done) rest
    else walk (String.ofList (encodeSet inPathSet segment) :: done) rest

/-- The path of segments that a text spells which follows a slash. -/
def segmentsOf (isSeparator : Char → Bool) (cs : List Char) : Path :=
  .segments (walk [] (Text.parts isSeparator cs)).reverse

/-- What separates segments. -/
def isSeparator (isSpecial : Bool) (c : Char) : Bool := c = '/' || (isSpecial && c = '\\')

/-- The path of a special URL, which never is empty. -/
def specialPath (cs : List Char) : Path :=
  match cs with
  | c :: rest =>
    if isSeparator true c then segmentsOf (isSeparator true) rest
    else segmentsOf (isSeparator true) cs
  | [] => .segments [""]

/-- The path of another URL that has an authority. -/
def otherPath (cs : List Char) : Path :=
  match cs with
  | [] => .segments []
  | _ :: rest => segmentsOf (isSeparator false) rest

/-! ### Reading -/

/-- A URL without query and fragment, whose authority and path are still text. -/
def ofAuthority? (scheme : String) (cs : List Char) : Option Url := do
  let isSpecial := isSpecialScheme scheme
  let place := cs.takeWhile fun c => !isSeparator isSpecial c
  let rest := cs.drop place.length
  let a ← authority? scheme place
  let path := if isSpecial then specialPath rest else otherPath rest
  some ⟨scheme, a.username, a.password, some a.host, a.port, path, none, none⟩

/-- Whether a text is the letter of a drive. -/
def isDrive : List Char → Bool
  | [c, mark] => c.isAlpha && (mark = ':' || mark = '|')
  | _ => false

/-- A URL of a file. The local host is as good as none. -/
def ofFile? (cs : List Char) : Option Url :=
  let file (host : Host) (rest : List Char) : Url :=
    ⟨"file", "", "", some host, none, specialPath rest, none, none⟩
  match cs with
  | a :: b :: rest =>
    if isSeparator true a ∧ isSeparator true b then
      let place := rest.takeWhile fun c => !isSeparator true c
      if isDrive place then some (file .empty rest)
      else if place.isEmpty then some (file .empty (rest.drop place.length))
      else (Host.parse? true place).map fun host =>
        file (if host = .name "localhost" then .empty else host) (rest.drop place.length)
    else some (file .empty cs)
  | _ => some (file .empty cs)

/-- A URL without query and fragment, from what follows the colon of its scheme. -/
def ofScheme? (scheme : String) (cs : List Char) : Option Url :=
  if scheme = "file" then ofFile? cs
  else if isSpecialScheme scheme then
    ofAuthority? scheme (cs.dropWhile (isSeparator true))
  else match cs with
    | '/' :: '/' :: rest => ofAuthority? scheme rest
    | '/' :: rest =>
      some ⟨scheme, "", "", none, none, segmentsOf (isSeparator false) rest, none, none⟩
    | _ =>
      let text := String.ofList (encodeSet isControl cs)
      some ⟨scheme, "", "", none, none, .plain text, none, none⟩

/-- Whether a character is dropped at the ends of a URL's text. -/
def isOuter (c : Char) : Bool := c.toNat ≤ 0x20

/-- A URL's text without what may stand around it, and without tabs and line ends. -/
def clean (cs : List Char) : List Char :=
  (((cs.dropWhile isOuter).reverse.dropWhile isOuter).reverse).filter fun c =>
    !(c = '\t' || c = '\n' || c = '\r')

/-- The URL that a text spells. -/
def parse? (s : String) : Option Url := do
  let (scheme, rest) ← scheme? (clean s.toList)
  let (rest, fragment) := Text.cut (· = '#') rest
  let (rest, query) := Text.cut (· = '?') rest
  let u ← ofScheme? scheme rest
  let querySet := if isSpecialScheme scheme then inSpecialQuerySet else inQuerySet
  some
    { u with
      query := query.map fun q => String.ofList (encodeSet querySet q)
      fragment := fragment.map fun f => String.ofList (encodeSet inFragmentSet f) }

/-! ### Writing -/

/-- Whether a URL names a host. -/
def hasHost (u : Url) : Bool := u.host.any fun h => h ≠ .empty

/-- Whether a URL is of the web. -/
def isHttp (u : Url) : Bool := u.scheme = "http" || u.scheme = "https"

/-- The authority of a URL as text, with the slashes before it. -/
def authorityText (u : Url) : String :=
  match u.host with
  | none => ""
  | some host =>
    let password := if u.password.isEmpty then "" else ":" ++ u.password
    let user :=
      if u.username.isEmpty ∧ u.password.isEmpty then "" else u.username ++ password ++ "@"
    let port := match u.port with
      | some n => ":" ++ toString n
      | none => ""
    "//" ++ user ++ host.text ++ port

/-- A path as text. -/
def Path.text : Path → String
  | .plain text => text
  | .segments list => String.join (list.map fun s => "/" ++ s)

/-- A URL as text. -/
def text (u : Url) : String :=
  let guard := match u.host, u.path with
    | none, .segments ("" :: _ :: _) => "/."
    | _, _ => ""
  u.scheme ++ ":" ++ u.authorityText ++ guard ++ u.path.text
    ++ (match u.query with
      | some q => "?" ++ q
      | none => "")
    ++ (match u.fragment with
      | some f => "#" ++ f
      | none => "")

end Url

end MetricWatch
