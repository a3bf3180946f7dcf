import MetricWatch.Http.Client
import MetricWatch.Cluster.Metrics
import MetricWatch.Cluster.Nodes
import MetricWatch.Cluster.Names
import MetricWatch.Watch.Session
import MetricWatch.Api.Routes

/-!
# Calls of the cluster's interface

A call sends JSON to a path below the base URL and reads JSON from the answer. It takes the token
of the session once, at its start, and all attempts of the call together have a time limit. What
goes wrong is classified by the status of the answer.
-/

namespace MetricWatch.Api

open Http (Status Response Network Draft)

/-! ### Clients -/

/-- Where the interface is, how long an attempt may take and how many there are. -/
structure Target where
  baseUrl : String
  timeout : Duration
  maxAttempts : Nat

/-- A client of the interface. -/
structure Client where
  http : Http.Client
  baseUrl : String
  callTimeout : Duration

/-- A text without slashes at its end. -/
def withoutSlashes (s : String) : String :=
  String.ofList (s.toList.reverse.dropWhile (· = '/')).reverse

/-- The headers of every request to the interface. -/
def headers : Http.Headers := [("accept", "application/json"), ("x-requested-by", "cli")]

/-- The most attempts that a call's time limit makes room for. -/
def mostCounted : Nat := Nat.pow 2 32 - 1

/-- The time limit of a call: the time of every attempt and a second between them. -/
def timeLimit (timeout : Duration) (attempts : Nat) : Duration :=
  (timeout.times (min attempts mostCounted)).add (.ofSeconds 1)

/-- The client for a target. -/
def Client.build (target : Target) : Except Error Client :=
  let baseUrl := withoutSlashes target.baseUrl
  if baseUrl.isEmpty then .error (.config "base URL must not be empty")
  else
    let parts : Http.ClientParts :=
      { timeout := target.timeout, maxAttempts := max 1 target.maxAttempts, headers := headers }
    match parts.build with
    | .error e => .error (.config ("Failed to build HttpClient: " ++ e.message))
    | .ok http => .ok ⟨http, baseUrl, timeLimit target.timeout http.maxAttempts⟩

/-- The parts of a client under construction. -/
structure ClientParts where
  target : Option Target
  hasSession : Bool

/-- A client of parts. -/
def ClientParts.build (p : ClientParts) : Except Error Client :=
  match p.target with
  | none => .error (.config "API config not set")
  | some target =>
    if p.hasSession then Client.build target else .error (.config "Auth provider not set")

/-! ### Answers -/

/-- The error that an answer without success is. -/
def Error.ofStatus (status : Status) (url body : String) : Error :=
  let detail :=
    url ++ " returned status " ++ status.text ++ (if body.isEmpty then "" else ": " ++ body)
  if status.code = 401 ∨ status.code = 403 then .auth detail
  else if status.code = 429 then .rateLimit detail
  else if status.code = 404 then .notFound detail
  else if status.isServerError then .server detail
  else if status.isClientError then .client detail
  else .network detail

/-- Reads an answer with success. Without a body it is null. -/
def decode {α : Type} (form : Json.Form α) (path : String) (r : Response) : Except Error α :=
  match r.body with
  | none => .error (.network "Failed to read response body: error decoding response body")
  | some body =>
    if r.status.isBodiless ∨ body.isEmpty then
      (form.ofValue .null).mapError fun _ =>
        .decode (path ++ ": empty response (" ++ toString r.status.code ++ ")")
    else (form.ofBytes body).mapError fun fault => .decode (path ++ ": " ++ fault.message)

/-! ### Calls -/

/-- A call: when each attempt was made, what was noted, how it ended and how long it took. -/
structure Reached (σ α : Type) where
  state : σ
  sent : List (Duration × Http.Request)
  notes : List Note
  result : Except Error α
  time : Duration

/-- The content of what a call reached, changed. -/
def Reached.map {σ α β : Type} (r : Reached σ α) (f : Except Error α → Except Error β) :
    Reached σ β :=
  ⟨r.state, r.sent, r.notes, f r.result, r.time⟩

/-- The draft of a call. If its address says who asks, the token comes after that. -/
def Client.draft (c : Client) (token method path : String) (body : Option Json.Value) : Draft :=
  let d := Draft.start method (c.baseUrl ++ path)
  let authorization := d.headers ++ [("authorization", basicAuthorization token)]
  match body with
  | none => { d with headers := authorization }
  | some v =>
    { d with
      headers := authorization ++ [("content-type", "application/json")]
      body := .bytes (Text.Utf8.encode v.toText) }

/-- The answer of a call that ended, if it is a success. -/
def Client.accept (c : Client) (path : String)
    (result : Option (Except MetricWatch.Error Response)) : Except Error Response :=
  match result with
  | none => .error (.timeout c.callTimeout)
  | some (.error e) => .error e.toApi
  | some (.ok r) =>
    if r.status.isSuccess then .ok r
    else
      .error (.ofStatus r.status (c.baseUrl ++ path)
        (Text.Utf8.decodeLossy (r.body.getD [])))

/-- Calls the interface in a session. -/
def Client.call {σ : Type} (c : Client) (net : Network σ) (session : Session) (state : σ)
    (method path : String) (body : Option Json.Value) : Reached σ Response :=
  match session.accessToken with
  | .error e => ⟨state, [], [], .error e, .zero⟩
  | .ok token =>
    let called := c.http.send net (some c.callTimeout) state (c.draft token method path body)
    ⟨called.state, called.sent, called.notes, c.accept path called.result, called.time⟩

/-- Gets what stands at a path. -/
def Client.get {σ α : Type} (c : Client) (net : Network σ) (session : Session) (state : σ)
    (path : String) (form : Json.Form α) : Reached σ α :=
  (c.call net session state "GET" path none).map fun r => r.bind (decode form path)

/-- Posts something to a path. -/
def Client.post {σ α : Type} (c : Client) (net : Network σ) (session : Session) (state : σ)
    (path : String) (body : Json.Value) (form : Json.Form α) : Reached σ α :=
  (c.call net session state "POST" path (some body)).map fun r => r.bind (decode form path)

/-! ### What the watch asks -/

/-- Asks for metrics. -/
def Client.metrics {σ : Type} (c : Client) (net : Network σ) (session : Session) (state : σ)
    (names : List String) : Reached σ ClusterAnswer :=
  c.post net session state metricsPath (MetricsRequest.form.toValue ⟨names⟩) ClusterAnswer.form

/-- Asks for the metric names of a node. -/
def Client.names {σ : Type} (c : Client) (net : Network σ) (session : Session) (state : σ)
    (node namesNamespace : String) : Reached σ (List String) :=
  (c.get net session state (encodedNamesPath node namesNamespace) NamesAnswer.form).map fun r =>
    r.map NamesAnswer.names

/-- Asks for the ids of the nodes. -/
def Client.nodes {σ : Type} (c : Client) (net : Network σ) (session : Session) (state : σ) :
    Reached σ (List String) :=
  (c.get net session state nodesPath NodesAnswer.form).map fun r => r.map NodesAnswer.ids

end MetricWatch.Api
