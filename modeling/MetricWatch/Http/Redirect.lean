import MetricWatch.Http.Client
import Mathlib.Tactic.Lemma

/-!
# Redirections

A host can name another place to which a request is to be sent instead. Up to ten times in a row
the request is made anew for that place and sent there. There is more than one way of making it
anew; all agree that a request which stays on its host and port says who asks, as before, and that
one which leaves them does not.
-/

namespace MetricWatch

/-- The host and the port that a URL leads to. -/
def Url.endpoint (u : Url) : Option Url.Host × Option Nat :=
  (u.host, u.port.or (Url.defaultPort? u.scheme))

namespace Http

/-- The headers that say who asks. -/
def Headers.authorization (headers : Headers) : Headers :=
  headers.filter fun h => h.1 = "authorization"

/-! ### Requests made anew -/

/-- A way of making requests anew. -/
structure Forwarder where
  /-- The request for the place that a redirection leads to, after the request that was redirected
  and those before it, latest first. -/
  next : Request → List Request → Status → Url → Request
  url_next : ∀ r earlier status target, (next r earlier status target).url = target
  /-- What was sent to one host and port with the same authorization goes on with it there. -/
  stays : ∀ {r earlier} status {target authorization},
    (∀ q ∈ r :: earlier,
        q.url.endpoint = target.endpoint ∧ q.headers.authorization = authorization) →
      (next r earlier status target).headers.authorization = authorization
  /-- What leaves its host or port goes on without authorization. -/
  leaves : ∀ {r} earlier status {target}, r.url.endpoint ≠ target.endpoint →
    (next r earlier status target).headers.authorization = []

/-- Names of headers that tell of a body. -/
def bodyHeaders : List String :=
  ["transfer-encoding", "content-encoding", "content-type", "content-length"]

/-- Names of headers that are for one host and port only. -/
def confidentialHeaders : List String :=
  ["authorization", "cookie", "cookie2", "proxy-authorization", "www-authenticate"]

/-- Headers without those of some names. -/
def Headers.without (headers : Headers) (names : List String) : Headers :=
  headers.filter fun h => !names.contains h.1

/-- Whether a redirected request is to be made anew without its body, as one that gets something. -/
def Request.dropsBody (r : Request) (status : Status) : Bool :=
  ((status.code = 301 || status.code = 302) && r.method = "POST") ||
    (status.code = 303 && r.method ≠ "HEAD")

/-- The header that tells from where a request was redirected, which one without protection is not
told of a place with it. -/
def Headers.referer (source target : Url) : Headers :=
  if source.scheme = "https" ∧ target.scheme = "http" then []
  else [("referer", { source with username := "", password := "", fragment := none }.text)]

/-- A request as it is made anew after a redirection. -/
def Request.redirected (r : Request) (status : Status) (target : Url) : Request :=
  let bare : Request :=
    if r.dropsBody status then
      { r with method := "GET", headers := r.headers.without bodyHeaders, body := .none }
    else r
  let kept := if r.url.endpoint = target.endpoint then bare.headers
    else bare.headers.without confidentialHeaders
  let referer := Headers.referer r.url target
  { bare with url := target, headers := kept.without (referer.map Prod.fst) ++ referer }

section

variable {headers : Headers} {names : List String}

/-- Other headers may go without touching who asks. -/
lemma Headers.authorization_without (others : "authorization" ∉ names) :
    (headers.without names).authorization = headers.authorization := by
  rw [without, authorization, authorization, List.filter_filter]
  refine List.filter_congr fun h _ => ?_
  by_cases isName : h.1 = "authorization"
  · simp [isName, others]
  · simp [isName]

lemma Headers.authorization_without_eq_nil (isThere : "authorization" ∈ names) :
    (headers.without names).authorization = [] := by
  rw [without, authorization, List.filter_filter, List.filter_eq_nil_iff]
  intro h _
  by_cases isName : h.1 = "authorization"
  · simp [isName, isThere]
  · simp [isName]

lemma Headers.authorization_referer (source target : Url) :
    (Headers.referer source target).authorization = [] := by
  rw [referer]
  split <;> rfl

lemma Request.authorization_redirected (r : Request) (status : Status) (target : Url) :
    (r.redirected status target).headers.authorization
      = if r.url.endpoint = target.endpoint then r.headers.authorization else [] := by
  have others : "authorization" ∉ (Headers.referer r.url target).map Prod.fst := by
    rw [Headers.referer]
    split <;> simp
  have bare (bodiless : Bool) : Headers.authorization
      (if bodiless then ({ r with
        method := "GET", headers := r.headers.without bodyHeaders, body := .none } : Request)
        else r).headers = r.headers.authorization := by
    cases bodiless with
    | false => rfl
    | true => exact Headers.authorization_without (by decide)
  have joined (a b : Headers) : Headers.authorization (a ++ b)
      = a.authorization ++ b.authorization := List.filter_append ..
  simp only [redirected, joined, Headers.authorization_referer, List.append_nil,
    Headers.authorization_without others]
  split
  · exact bare _
  · exact Headers.authorization_without_eq_nil (by decide)

end

/-- Requests are made anew from the last that was redirected. -/
def Forwarder.standard : Forwarder where
  next r _ status target := r.redirected status target
  url_next _ _ _ _ := rfl
  stays status _ _ same := by
    obtain ⟨endpoint, authorization⟩ := same _ List.mem_cons_self
    rw [Request.authorization_redirected, if_pos endpoint, authorization]
  leaves _ status _ left := by rw [Request.authorization_redirected, if_neg left]

/-! ### Hosts -/

/-- What a host does with a request. -/
inductive Reception
  | response (r : Response)
  /-- The status tells to send the request to another place. -/
  | elsewhere (status : Status) (target : Url)
  | refused
  | broken
  deriving Repr

/-- What hosts do with a request and how long that takes, if it ever ends. -/
structure Visit (σ : Type) where
  state : σ
  reception : Reception
  latency : Option Duration

/-- Hosts with states in `σ`. -/
abbrev Hosts (σ : Type) := σ → Request → Visit σ

/-- Requests that are sent one after the other, and the exchange that they make together. -/
structure Trail (σ : Type) where
  sent : List Request
  exchange : Exchange σ

section

variable {σ : Type}

/-- Where a visit leads when it is over. -/
def Visit.elsewhere? (v : Visit σ) : Option (Status × Url × Duration) :=
  match v.reception, v.latency with
  | .elsewhere status target, some time => some (status, target, time)
  | _, _ => none

/-- A visit as an exchange, with what becomes of a redirection that is not followed. -/
def Visit.exchange (v : Visit σ) (redirected : Outcome) : Exchange σ :=
  let outcome := match v.reception with
    | .response response => .response response
    | .elsewhere _ _ => redirected
    | .refused => .refused
    | .broken => .broken
  ⟨v.state, outcome, v.latency⟩

/-- An exchange that begins later. -/
def Exchange.later (e : Exchange σ) (time : Duration) : Exchange σ :=
  { e with latency := e.latency.map time.add }

namespace Hosts

/-- What sending a request comes to after others, latest first, when so many redirections may still
be followed. -/
def follow (hosts : Hosts σ) (f : Forwarder) : Nat → List Request → σ → Request → Trail σ
  | 0, _, state, r => ⟨[r], (hosts state r).exchange (.misdirected r.url)⟩
  | left + 1, earlier, state, r =>
    let visit := hosts state r
    match visit.elsewhere? with
    | none => ⟨[r], visit.exchange .broken⟩
    | some (status, target, time) =>
      if target.isHttp then
        let rest := hosts.follow f left (r :: earlier) visit.state (f.next r earlier status target)
        ⟨r :: rest.sent, rest.exchange.later time⟩
      else ⟨[r], visit.exchange (.unmakeable target)⟩

/-- How many redirections are followed in a row. -/
def mostRedirections : Nat := 10

/-- What sending a request comes to. -/
def trail (hosts : Hosts σ) (f : Forwarder) (state : σ) (r : Request) : Trail σ :=
  hosts.follow f mostRedirections [] state r

/-- The network of hosts. -/
def network (hosts : Hosts σ) (f : Forwarder) : Network σ := fun state r =>
  (hosts.trail f state r).exchange

end Hosts

end

end Http

end MetricWatch
