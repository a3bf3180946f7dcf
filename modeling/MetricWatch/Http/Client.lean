import MetricWatch.Http.Failure
import MetricWatch.Journal.Basic

/-!
# The client that tries again

A client sends a request until an answer comes that is no server error, or a failure that is not
transient, or its attempts are used up; then whatever came last is the result. Before another
attempt it waits, each time twice as long as before until the factor is 256. All the attempts of a
call may be bounded by a limit, at which the call is cut short.
-/

namespace MetricWatch.Http

/-! ### Networks -/

/-- What becomes of a request on the network, where redirections are followed. -/
inductive Outcome
  | response (r : Response)
  | refused
  | broken
  /-- There were too many redirections, the last of them at a URL. -/
  | misdirected (url : Url)
  /-- A redirection led to a URL that is not of the web. -/
  | unmakeable (url : Url)
  deriving Repr

/-- What a network does with a request: what becomes of it and how long that takes, if it ever
ends. -/
structure Exchange (σ : Type) where
  state : σ
  outcome : Outcome
  latency : Option Duration

/-- A network with states in `σ`. -/
abbrev Network (σ : Type) := σ → Request → Exchange σ

/-- The network on which nobody listens. -/
def Network.unreachable : Network Unit := fun _ _ => ⟨(), .refused, some .zero⟩

/-! ### Clients -/

/-- A client: how long an attempt may take, how many there are, how long to wait before the second
and which headers every request has. -/
structure Client where
  timeout : Duration
  maxAttempts : Nat
  backoff : Duration
  headers : Headers

/-- The parts of a client under construction. -/
structure ClientParts where
  timeout : Duration := .ofSeconds 10
  maxAttempts : Nat := 3
  backoff : Duration := .ofMillis 200
  userAgent : Option String := none
  headers : Headers := []

/-- Headers with others that stand in where a name is missing. -/
def Headers.orElse (headers others : Headers) : Headers :=
  headers ++ others.filter fun o => !headers.any fun h => h.1 = o.1

/-- A client of parts; there is at least one attempt. -/
def ClientParts.build (p : ClientParts) : Except Error Client :=
  let client (agent : Headers) : Client :=
    ⟨p.timeout, max 1 p.maxAttempts, p.backoff,
      p.headers.orElse (agent ++ [("accept", "*/*")])⟩
  match p.userAgent with
  | none => .ok (client [])
  | some agent =>
    if isHeaderText agent then .ok (client [("user-agent", agent)])
    else .error (Failure.unmakeable none).toError

namespace Client

/-- The largest exponent of the waiting time. -/
def largestExponent : Nat := 8

/-- How long to wait before an attempt is made again, for the first time or a later one. -/
def delayBefore (c : Client) (retry : Nat) : Duration :=
  c.backoff.times (Nat.pow 2 (min (retry - 1) largestExponent))

/-! ### Attempts -/

/-- The result of an attempt and how long it took. -/
structure Tried (σ : Type) where
  state : σ
  result : Except Failure Response
  time : Duration

/-- One attempt. Only web addresses are tried, and an answer that is not there in time is as good
as none. -/
def attempt {σ : Type} (c : Client) (net : Network σ) (state : σ) (r : Request) : Tried σ :=
  if r.url.isHttp then
    let e := net state r
    let late : Tried σ := ⟨e.state, .error .timedOut, c.timeout⟩
    match e.latency with
    | none => late
    | some time =>
      if time.nanos < c.timeout.nanos then
        match e.outcome with
        | .response response => ⟨e.state, .ok response, time⟩
        | .refused => ⟨e.state, .error .refused, time⟩
        | .broken => ⟨e.state, .error (.broken r.url), time⟩
        | .misdirected url => ⟨e.state, .error (.misdirected url), time⟩
        | .unmakeable url => ⟨e.state, .error (.unmakeable (some url)), time⟩
      else late
  else ⟨state, .error (.unmakeable (some r.url)), .zero⟩

/-- Whether another attempt may help, and what is noted then. -/
def retryNote? : Except Failure Response → Option Note
  | .ok response =>
    if response.status.isServerError then some (.warn "server error, retrying") else none
  | .error failure =>
    if failure.isTransient then some (.warn "transport error, retrying") else none

/-- A call: when each attempt was made, what was noted, how it ended and how long it took. The
lists are latest last. A call that was cut short has no result. -/
structure Called (σ : Type) where
  state : σ
  sent : List (Duration × Request)
  notes : List Note
  result : Option (Except Error Response)
  time : Duration

/-- What attempts brought, with one more attempt before them. -/
def Called.after {σ : Type} (rest : Called σ) (sent : Duration × Request) (notes : List Note) :
    Called σ :=
  { rest with sent := sent :: rest.sent, notes := notes ++ rest.notes }

/-- Whether a time is past a limit. -/
def isPast (limit : Option Duration) (time : Duration) : Bool :=
  limit.any fun l => decide (l.nanos < time.nanos)

/-- Whether a time has reached a limit. -/
def hasReached (limit : Option Duration) (time : Duration) : Bool :=
  limit.any fun l => decide (l.nanos ≤ time.nanos)

/-- The attempts from one on, so many being left, at a time. -/
def attemptFrom {σ : Type} (c : Client) (net : Network σ) (limit : Option Duration) (r : Request)
    (number : Nat) : Nat → Duration → σ → Called σ
  | 0, now, state =>
    ⟨state, [], [],
      some (.error ⟨.internal, "http client ran out of attempts without a response"⟩), now⟩
  | left + 1, now, state =>
    let tried := c.attempt net state r
    let done := now.add tried.time
    let cut (notes : List Note) : Called σ :=
      ⟨tried.state, [(now, r)], notes, none, limit.getD done⟩
    if hasReached limit done then cut []
    else match (if left = 0 then none else retryNote? tried.result) with
      | none =>
        ⟨tried.state, [(now, r)], [], some (tried.result.mapError Failure.toError), done⟩
      | some note =>
        let again := done.add (c.delayBefore number)
        if isPast limit again then cut [note]
        else
          (attemptFrom c net limit r (number + 1) left again tried.state).after (now, r) [note]

/-- Sends a draft, with all attempts it takes. A draft that cannot be sent more than once is not
sent at all. -/
def send {σ : Type} (c : Client) (net : Network σ) (limit : Option Duration) (state : σ)
    (d : Draft) : Called σ :=
  match ({ d with headers := d.headers.orElse c.headers } : Draft).request? with
  | none =>
    ⟨state, [], [], some (.error ⟨.internal, "request body cannot be replayed for retry"⟩),
      .zero⟩
  | some r => c.attemptFrom net limit r 1 (max 1 c.maxAttempts) .zero state

end Client

end MetricWatch.Http
