import MetricWatch.Http.Status
import MetricWatch.Text.Base64
import MetricWatch.Url.Basic

/-!
# Requests and responses

A request is drafted with its address as text. It can be sent only if the address is that of a
host and if the body can be sent more than once. An address may say who asks; this does not stay in
the URL of the request but goes into a header of its own.
-/

namespace MetricWatch

namespace Url

/-- Who asks, by a URL: a name and perhaps a password. Nobody does if there is neither, or if the name is
no text. -/
def credentials? (u : Url) : Option (String × Option String) := do
  let name ← Text.Percent.decode? u.username
  let password := if u.password.isEmpty then none else Text.Percent.decode? u.password
  if name.isEmpty ∧ password.isNone then none else some (name, password)

/-- A URL without who asks. -/
def anonymous (u : Url) : Url :=
  match u.credentials? with
  | some _ => { u with username := "", password := "" }
  | none => u

/-- The path says nothing of who asks. -/
theorem anonymous_path (u : Url) (path : Path) :
    { u with path := path }.anonymous = { u.anonymous with path := path } := by
  have same : { u with path := path }.credentials? = u.credentials? := rfl
  rw [anonymous, anonymous, same]
  cases u.credentials? <;> rfl

/-- Nor does the scheme. -/
theorem isHttp_anonymous (u : Url) : u.anonymous.isHttp = u.isHttp := by
  rw [anonymous]
  cases u.credentials? <;> rfl

end Url

namespace Http

/-- Headers in order, their names in lower case. -/
abbrev Headers := List (String × String)

/-- The headers that say who asks, by a URL. -/
def Headers.ofCredentials (u : Url) : Headers :=
  match u.credentials? with
  | some (name, password) =>
    [("authorization", "Basic " ++ Text.Base64.encode (name ++ ":" ++ password.getD ""))]
  | none => []

/-- What a request carries. -/
inductive Body
  | none
  | bytes (data : List UInt8)
  /-- Data that can be taken only once. -/
  | stream
  deriving DecidableEq, Repr

/-- A request that can be sent. -/
structure Request where
  method : String
  url : Url
  headers : Headers
  body : Body
  deriving DecidableEq, Repr

/-- A request whose address is still text. -/
structure Draft where
  method : String
  address : String
  headers : Headers := []
  body : Body := .none
  deriving DecidableEq, Repr

namespace Draft

/-- The URL that a draft is for, if it is that of a host. -/
def url? (d : Draft) : Option Url := (Url.parse? d.address).filter Url.hasHost

/-- A draft to begin with: it has a header only if its address says who asks. -/
def start (method address : String) : Draft :=
  let d : Draft := { method := method, address := address }
  { d with headers := (d.url?.map Headers.ofCredentials).getD [] }

/-- The request of a draft, if it can be sent more than once. -/
def request? (d : Draft) : Option Request :=
  match d.body, d.url? with
  | .stream, _ => none
  | _, none => none
  | body, some url => some ⟨d.method, url.anonymous, d.headers, body⟩

end Draft

/-- A response; the body is missing if it broke off. -/
structure Response where
  status : Status
  body : Option (List UInt8)
  deriving DecidableEq, Repr

/-- Whether a text can stand in a header: no control character but the tab. -/
def isHeaderText (s : String) : Bool :=
  s.toList.all fun c => c = '\t' || (0x20 ≤ c.toNat && c.toNat ≠ 0x7f)

end Http

end MetricWatch
