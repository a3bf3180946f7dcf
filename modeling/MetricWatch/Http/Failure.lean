import MetricWatch.Error
import MetricWatch.Http.Message

/-!
# Failures of requests

Why a request brought no response, or a response that is of no use, and what error of the watch
that is. A failure is transient if another attempt may fare better.
-/

namespace MetricWatch.Http

/-- Why a request failed. -/
inductive Failure
  | timedOut
  | refused
  /-- The exchange broke off or the answer was no response. -/
  | broken (url : Url)
  /-- A redirection could not be followed. -/
  | misdirected (url : Url)
  /-- The request could not be made; for some of these the URL is known. -/
  | unmakeable (url : Option Url)
  /-- The status of the response tells of an error. -/
  | status (s : Status)
  /-- The body is not what it should be. -/
  | undecodable
  deriving DecidableEq, Repr

namespace Failure

/-- Whether another attempt may fare better. -/
def isTransient : Failure → Bool
  | .timedOut | .refused | .broken _ => true
  | .misdirected _ | .unmakeable _ | .status _ | .undecodable => false

/-- The words that name a URL behind a message. -/
def place : Option Url → String
  | some url => " for url (" ++ url.text ++ ")"
  | none => ""

/-- The kind of error that an error status is. -/
def kindOfStatus (s : Status) : ErrorKind :=
  if s.code = 401 ∨ s.code = 403 then .auth
  else if s.code = 404 then .notFound
  else if s.isClientError then .invalidInput
  else .network

/-- A failure as an error of the watch. -/
def toError : Failure → Error
  | .timedOut => ⟨.network, "HTTP request timed out"⟩
  | .refused => ⟨.network, "HTTP connection failure"⟩
  | .broken url => ⟨.network, "error sending request" ++ place (some url)⟩
  | .misdirected url => ⟨.network, "error following redirect" ++ place (some url)⟩
  | .unmakeable url => ⟨.config, "invalid HTTP request: builder error" ++ place url⟩
  | .status s =>
    ⟨kindOfStatus s, "HTTP " ++ toString s.code ++ " " ++ s.reason?.getD "unknown status"⟩
  | .undecodable =>
    ⟨.decode, "invalid HTTP response body: error decoding response body"⟩

end Failure

/-- Why no request to an address can be made, if so. -/
def addressFailure? (address : String) : Option Failure :=
  match Url.parse? address with
  | none => some (.unmakeable none)
  | some url => if url.hasHost then none else some (.unmakeable (some url))

/-- Why a response is no JSON, if so: its status tells of an error, or its body does. -/
def Response.jsonFailure? (r : Response) : Option Failure :=
  if r.status.isClientError ∨ r.status.isServerError then some (.status r.status)
  else match r.body.map Json.Form.any.ofBytes with
    | some (.ok _) => none
    | _ => some .undecodable

end MetricWatch.Http
