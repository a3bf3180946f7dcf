import MetricWatch.Json.Form
import MetricWatch.Time.Duration

/-!
# Errors

`Error` is what every operation of the watch fails with: a kind and a detail. `Api.Error` is the
finer classification of a failed call of the cluster's interface, and `Poller.Error` that of the
poller's life cycle. Both have a `toError`; `Error.toApi` goes the other way and loses the
distinction between internal errors and server errors.
-/

namespace MetricWatch

/-! ### Errors of the watch -/

/-- What kind of error it is. -/
inductive ErrorKind
  | config
  | network
  | auth
  | notFound
  | invalidInput
  | decode
  | internal
  deriving DecidableEq, Repr

namespace ErrorKind

/-- All kinds, in the order in which messages list them. -/
def all : List ErrorKind :=
  [.config, .network, .auth, .notFound, .invalidInput, .decode, .internal]

/-- The name of a kind in JSON. -/
def name : ErrorKind → String
  | .config => "Config"
  | .network => "Network"
  | .auth => "Auth"
  | .notFound => "NotFound"
  | .invalidInput => "InvalidInput"
  | .decode => "Decode"
  | .internal => "Internal"

/-- The words that a message of this kind begins with. -/
def label : ErrorKind → String
  | .config => "Configuration error: "
  | .network => "Network error: "
  | .auth => "Authentication error: "
  | .notFound => "Not found: "
  | .invalidInput => "Invalid input: "
  | .decode => "Decode error: "
  | .internal => "Internal error: "

/-- The kind of a name. -/
def ofName? (s : String) : Option ErrorKind := all.find? fun k => k.name = s

@[simp] theorem ofName?_name (k : ErrorKind) : ofName? k.name = some k := by
  cases k <;> decide

end ErrorKind

/-- An error: its kind and what went wrong. -/
structure Error where
  kind : ErrorKind
  detail : String
  deriving DecidableEq, Repr

namespace Error

/-- The message of an error. -/
def message (e : Error) : String := e.kind.label ++ e.detail

/-- Errors in JSON: the kind under `type` and the detail under `message`. -/
def form : Json.Form Error where
  shape := .tagged "ClusterWatchError" "type" "message" (ErrorKind.all.map ErrorKind.name) .text
  toDatum e := .record [.text e.kind.name, .text e.detail]
  ofDatum?
    | .record [.text name, .text detail] => (ErrorKind.ofName? name).map fun k => ⟨k, detail⟩
    | _ => none

end Error

/-! ### Errors of a call -/

namespace Api

/-- Why a call of the cluster's interface failed. -/
inductive Error
  | auth (detail : String)
  | rateLimit (detail : String)
  | server (detail : String)
  | client (detail : String)
  | notFound (detail : String)
  | network (detail : String)
  | config (detail : String)
  | decode (detail : String)
  | timeout (limit : Duration)
  deriving DecidableEq, Repr

/-- Coarser classes of failed calls. -/
inductive Category
  | authentication
  | rateLimit
  | server
  | client
  | network
  | config
  deriving DecidableEq, Repr

namespace Error

/-- The message of a failed call. -/
def message : Error → String
  | .auth detail => "Authentication failed: " ++ detail
  | .rateLimit detail => "Rate limit exceeded: " ++ detail
  | .server detail => "Server error: " ++ detail
  | .client detail => "Client error: " ++ detail
  | .notFound detail => "Not found: " ++ detail
  | .network detail => "Network error: " ++ detail
  | .config detail => "Configuration error: " ++ detail
  | .decode detail => "Failed to decode response: " ++ detail
  | .timeout limit => "Timeout after " ++ limit.text

/-- The class of a failed call. -/
def category : Error → Category
  | .auth _ => .authentication
  | .rateLimit _ => .rateLimit
  | .server _ => .server
  | .client _ | .notFound _ | .decode _ => .client
  | .network _ | .timeout _ => .network
  | .config _ => .config

/-- Whether a later attempt may succeed although nothing changes on this side. -/
def shouldRetry (e : Error) : Bool :=
  match e.category with
  | .rateLimit | .server | .network => true
  | _ => false

/-- The kind of error that a failed call is to the watch. -/
def kind : Error → ErrorKind
  | .auth _ => .auth
  | .config _ => .config
  | .decode _ => .decode
  | .client _ => .invalidInput
  | .notFound _ => .notFound
  | .rateLimit _ | .server _ | .network _ | .timeout _ => .network

/-- A failed call as an error of the watch; its whole message becomes the detail. -/
def toError (e : Error) : MetricWatch.Error := ⟨e.kind, e.message⟩

end Error

end Api

/-- An error of the watch as a failed call. -/
def Error.toApi (e : Error) : Api.Error :=
  match e.kind with
  | .config => .config e.detail
  | .network => .network e.detail
  | .auth => .auth e.detail
  | .notFound => .notFound e.detail
  | .invalidInput => .client e.detail
  | .decode => .decode e.detail
  | .internal => .server e.detail

/-! ### Errors of the poller's life cycle -/

namespace Poller

/-- Why the poller could not be started or stopped. -/
inductive Error
  | alreadyRunning
  | notRunning
  | timeout (seconds : Nat)
  | taskJoinFailed (detail : String)
  deriving DecidableEq, Repr

namespace Error

/-- The message of a life cycle error. -/
def message : Error → String
  | .alreadyRunning => "Scheduler already running"
  | .notRunning => "Scheduler not running"
  | .timeout seconds => "Operation timed out after " ++ toString seconds ++ "s"
  | .taskJoinFailed detail => "Task join failed: " ++ detail

/-- A life cycle error as an error of the watch. -/
def toError (e : Error) : MetricWatch.Error :=
  match e with
  | .alreadyRunning | .notRunning => ⟨.invalidInput, e.message⟩
  | .timeout _ | .taskJoinFailed _ => ⟨.internal, e.message⟩

end Error

end Poller

end MetricWatch
