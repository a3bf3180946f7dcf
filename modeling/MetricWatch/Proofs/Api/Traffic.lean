import MetricWatch.Api.Client
import MetricWatch.Proofs.Http.Retries

/-!
# Traffic

Calls of the interface share a session and a network, and take their steps in any order, while
others log in and out. A call looks for a token once. Then it sends its request, waits for what becomes of
it, and does so again as long as the verdicts of its client say, unless it is given up.

A call that nothing disturbs can go on to its end, and then it is the call that is made all at once:
see `Traffic.exists_alone`.
-/

namespace MetricWatch

/-- The session after someone tried to log in. -/
def Session.afterLogin (s : Session) (token : String) : Session :=
  match s.login token with
  | .ok session => session
  | .error _ => s

namespace Api

open Http (Network Request Response Draft Failure)

/-! ### Calls -/

/-- A call that is to be made. -/
structure Errand where
  client : Client
  method : String
  path : String
  body : Option Json.Value

/-- An attempt of a call: its request and its number, how many are left after it, and the time of
the call at which it is made. -/
structure Turn where
  request : Request
  number : Nat
  left : Nat
  now : Duration

/-- How far a call has come. -/
inductive Progress
  /-- It has not looked for a token yet. -/
  | begun
  /-- An attempt is to be made. -/
  | due (turn : Turn)
  /-- An attempt has been made, which is going to bring something in some time. -/
  | underway (turn : Turn) (result : Except Failure Response) (time : Duration)
  | ended (result : Except Error Response)
  | abandoned

/-- A call and how far it has come. -/
structure Ongoing where
  errand : Errand
  progress : Progress

namespace Errand

variable {σ : Type}

/-- A call made all at once. -/
def call (e : Errand) (net : Network σ) (session : Session) (state : σ) : Reached σ Response :=
  e.client.call net session state e.method e.path e.body

/-- The draft of a call with all its headers. -/
def draft (e : Errand) (token : String) : Draft :=
  let d := e.client.draft token e.method e.path e.body
  { d with headers := d.headers.orElse e.client.http.headers }

/-- How far a call has come when it has looked for a token. -/
def look (e : Errand) (session : Session) : Progress :=
  match session.accessToken with
  | .error refusal => .ended (.error refusal)
  | .ok token =>
    match (e.draft token).request? with
    | none =>
      .ended (e.client.accept e.path
        (some (.error ⟨.internal, "request body cannot be replayed for retry"⟩)))
    | some r => .due ⟨r, 1, max 1 e.client.http.maxAttempts - 1, .zero⟩

/-- How far a call has come when an attempt is over. -/
def hear (e : Errand) (turn : Turn) (result : Except Failure Response) (time : Duration) :
    Progress :=
  match e.client.http.verdict (some e.client.callTimeout) turn.number turn.left
      (turn.now.add time) result with
  | .stop => .ended (e.client.accept e.path (some (result.mapError Failure.toError)))
  | .cut _ => .ended (e.client.accept e.path none)
  | .again _ next => .due ⟨turn.request, turn.number + 1, turn.left - 1, next⟩

/-- What the attempts of a call come to from one on. -/
def goOn (e : Errand) (net : Network σ) (turn : Turn) (state : σ) : Http.Client.Called σ :=
  e.client.http.attemptFrom net (some e.client.callTimeout) turn.request turn.number
    (turn.left + 1) turn.now state

/-- What they come to from one on that has been made. -/
def goOnAfter (e : Errand) (net : Network σ) (turn : Turn) (tried : Http.Client.Tried σ) :
    Http.Client.Called σ :=
  e.client.http.proceed net (some e.client.callTimeout) turn.request turn.number turn.left turn.now
    tried

lemma goOn_eq (e : Errand) (net : Network σ) (turn : Turn) (state : σ) :
    e.goOn net turn state
      = e.goOnAfter net turn (e.client.http.attempt net state turn.request) :=
  Http.Client.attemptFrom_succ ..

/-- What a call that looks for a token comes to. -/
inductive Looked (e : Errand) (net : Network σ) (session : Session) (state : σ) : Progress → Prop
  | ended (result : Except Error Response)
      (nothing : e.call net session state = ⟨state, [], [], result, .zero⟩) :
      Looked e net session state (.ended result)
  | due (turn : Turn) (goesOn : let called := e.goOn net turn state
      e.call net session state = ⟨called.state, called.sent, called.notes,
        e.client.accept e.path called.result, called.time⟩) :
      Looked e net session state (.due turn)

lemma looked_look (e : Errand) (net : Network σ) (session : Session) (state : σ) :
    e.Looked net session state (e.look session) := by
  rw [look]
  split
  next refusal held =>
    refine .ended _ ?_
    simp only [call, Client.call, held]
  next token held =>
    split
    next refused =>
      rw [draft] at refused
      refine .ended _ ?_
      simp only [call, Client.call, held, Http.Client.send, refused]
    next r drafted =>
      have attempts : max 1 e.client.http.maxAttempts - 1 + 1 = max 1 e.client.http.maxAttempts :=
        Nat.sub_add_cancel (Nat.le_max_left ..)
      rw [draft] at drafted
      refine .due _ ?_
      simp only [call, Client.call, held, Http.Client.send, drafted, goOn, attempts]

/-- What a call has come to after an attempt is what was heard of it. -/
inductive Heard (e : Errand) (net : Network σ) (turn : Turn) (tried : Http.Client.Tried σ) :
    Progress → Prop
  | ended (notes : List Note) (result : Option (Except MetricWatch.Error Response))
      (time : Duration) (last : e.goOnAfter net turn tried
        = ⟨tried.state, [(turn.now, turn.request)], notes, result, time⟩) :
      Heard e net turn tried (.ended (e.client.accept e.path result))
  | due {next : Turn} (note : Note) (fewer : turn.left = next.left + 1)
      (again : e.goOnAfter net turn tried
        = (e.goOn net next tried.state).after (turn.now, turn.request) [note]) :
      Heard e net turn tried (.due next)

lemma heard_hear (e : Errand) (net : Network σ) (turn : Turn) (tried : Http.Client.Tried σ) :
    e.Heard net turn tried (e.hear turn tried.result tried.time) := by
  have goesOn : e.goOnAfter net turn tried = e.client.http.proceed net (some e.client.callTimeout)
      turn.request turn.number turn.left turn.now tried := rfl
  rw [Http.Client.proceed] at goesOn
  cases verdict : e.client.http.verdict (some e.client.callTimeout) turn.number turn.left
    (turn.now.add tried.time) tried.result with
  | stop =>
    simp only [hear, verdict] at goesOn ⊢
    exact .ended _ _ _ goesOn
  | cut notes =>
    simp only [hear, verdict] at goesOn ⊢
    exact .ended _ _ _ goesOn
  | again note next =>
    obtain ⟨fewer, left⟩ := Http.Client.exists_of_again verdict
    simp only [hear, verdict] at goesOn ⊢
    rw [left] at goesOn ⊢
    exact .due note left goesOn

/-- What a call sends is what was drafted with the token of its session. -/
lemma drafted_of_sent {e : Errand} {net : Network σ} {session : Session} {state : σ}
    {sent : Duration × Request} (isSent : sent ∈ (e.call net session state).sent) :
    ∃ token, session.accessToken = .ok token ∧ (e.draft token).request? = some sent.2 := by
  cases held : session.accessToken with
  | error refusal => simp [call, Client.call, held] at isSent
  | ok token =>
    simp only [call, Client.call, held] at isSent
    exact ⟨token, rfl, Http.Client.drafted_of_sent isSent⟩

end Errand

/-! ### Steps -/

/-- A session, a network and the calls that were begun, in order. -/
structure Traffic (σ : Type) where
  session : Session
  network : σ
  calls : List Ongoing := []

/-- What happens in a traffic. -/
inductive Incident
  /-- Someone logs in, or tries to. -/
  | login (token : String)
  | logout
  /-- Someone asks whether the session is logged in. -/
  | asked (answer : Bool)
  | began
  /-- A call looks for a token. -/
  | looked (call : Nat) (found : Except Error String)
  /-- A call sends its request, at a time of its own. -/
  | sent (call : Nat) (time : Duration) (r : Request)
  /-- An attempt of a call is over. -/
  | heard (call : Nat)
  | gaveUp (call : Nat)
  /-- Someone else uses the network. -/
  | elsewhere

namespace Traffic

variable {σ : Type}

/-- The traffic with a call that has come farther. -/
def put (t : Traffic σ) (id : Nat) (progress : Progress) : Traffic σ :=
  { t with calls := t.calls.modify id fun o => { o with progress := progress } }

/-- The traffic with an attempt of a call underway. -/
def attempted (t : Traffic σ) (id : Nat) (turn : Turn) (tried : Http.Client.Tried σ) : Traffic σ :=
  { t with network := tried.state }.put id (.underway turn tried.result tried.time)

lemma getElem?_put (t : Traffic σ) (id : Nat) (progress : Progress) (i : Nat) :
    (t.put id progress).calls[i]?
      = if id = i then t.calls[i]?.map fun o => ⟨o.errand, progress⟩ else t.calls[i]? := by
  rw [put, List.getElem?_modify]
  split
  · rfl
  · exact id_map ..

lemma getElem?_put_self {t : Traffic σ} {id : Nat} {o : Ongoing} (isThere : t.calls[id]? = some o)
    (progress : Progress) : (t.put id progress).calls[id]? = some ⟨o.errand, progress⟩ := by
  rw [getElem?_put, if_pos rfl, isThere]
  rfl

@[simp] lemma put_put (t : Traffic σ) (id : Nat) (first last : Progress) :
    (t.put id first).put id last = t.put id last := by
  simp only [put, List.modify_modify_eq]
  rfl

/-- One step of a traffic, and what happens in it. -/
inductive Step (net : Network σ) : Traffic σ → Incident → Traffic σ → Prop
  | login (t : Traffic σ) (token : String) :
      Step net t (.login token) { t with session := t.session.afterLogin token }
  | logout (t : Traffic σ) : Step net t .logout { t with session := t.session.logout }
  | ask (t : Traffic σ) : Step net t (.asked t.session.isLoggedIn) t
  | start (t : Traffic σ) (e : Errand) :
      Step net t .began { t with calls := t.calls ++ [⟨e, .begun⟩] }
  | look {t : Traffic σ} {id : Nat} {e : Errand} (isThere : t.calls[id]? = some ⟨e, .begun⟩) :
      Step net t (.looked id t.session.accessToken) (t.put id (e.look t.session))
  | send {t : Traffic σ} {id : Nat} {e : Errand} {turn : Turn}
      (isThere : t.calls[id]? = some ⟨e, .due turn⟩) :
      Step net t (.sent id turn.now turn.request)
        (t.attempted id turn (e.client.http.attempt net t.network turn.request))
  | hear {t : Traffic σ} {id : Nat} {e : Errand} {turn : Turn} {result : Except Failure Response}
      {time : Duration} (isThere : t.calls[id]? = some ⟨e, .underway turn result time⟩) :
      Step net t (.heard id) (t.put id (e.hear turn result time))
  | giveUp {t : Traffic σ} {id : Nat} {o : Ongoing} (isThere : t.calls[id]? = some o)
      (unfinished : ∀ result, o.progress ≠ .ended result) :
      Step net t (.gaveUp id) (t.put id .abandoned)
  | elsewhere (t : Traffic σ) (network : σ) : Step net t .elsewhere { t with network := network }

/-- Steps one after the other, and what happens in them, latest first. -/
inductive Path (net : Network σ) (t₀ : Traffic σ) : List Incident → Traffic σ → Prop
  | refl : Path net t₀ [] t₀
  | tail {marks : List Incident} {t t' : Traffic σ} {m : Incident} (path : Path net t₀ marks t)
      (step : Step net t m t') : Path net t₀ (m :: marks) t'

/-- The traffic from its beginning: nobody is logged in, and nothing was called. -/
def Run (net : Network σ) (marks : List Incident) (t : Traffic σ) : Prop :=
  ∃ network, Path net ⟨.loggedOut, network, []⟩ marks t

variable {net : Network σ} {t₀ t t' : Traffic σ} {marks later : List Incident} {m : Incident}

lemma Path.trans (first : Path net t₀ marks t) (last : Path net t later t') :
    Path net t₀ (later ++ marks) t' := by
  induction last with
  | refl => exact first
  | tail _ step ih => exact .tail ih step

/-- A run can be taken apart wherever its record can. -/
lemma Run.split (run : Run net marks t) {before : List Incident} (isPast : m :: before <:+ marks) :
    ∃ t₁ t₂, Run net before t₁ ∧ Step net t₁ m t₂ := by
  obtain ⟨network, path⟩ := run
  induction path with
  | refl => exact absurd (List.suffix_nil.mp isPast) (List.cons_ne_nil _ _)
  | tail path step ih =>
    rcases List.suffix_cons_iff.mp isPast with same | isPast
    · obtain ⟨rfl, rfl⟩ := List.cons.inj same
      exact ⟨_, _, ⟨network, path⟩, step⟩
    · exact ih isPast

end Traffic

/-! ### Records -/

/-- What a call found when it looked for a token. -/
def Incident.found? (id : Nat) : Incident → Option (Except Error String)
  | .looked call found => if call = id then some found else none
  | _ => none

/-- The request that a call sent, and when. -/
def Incident.sent? (id : Nat) : Incident → Option (Duration × Request)
  | .sent call time r => if call = id then some (time, r) else none
  | _ => none

/-- All that a call found when it looked for a token, latest first. -/
def looks (id : Nat) (marks : List Incident) : List (Except Error String) :=
  marks.filterMap (Incident.found? id)

/-- All the requests that a call sent, latest last. -/
def requests (id : Nat) (marks : List Incident) : List (Duration × Request) :=
  (marks.filterMap (Incident.sent? id)).reverse

section

variable {id : Nat} {marks : List Incident} {m : Incident}

@[simp] lemma looks_cons : looks id (m :: marks) = (m.found? id).toList ++ looks id marks := by
  cases found : m.found? id <;> simp [looks, found]

@[simp] lemma requests_cons :
    requests id (m :: marks) = requests id marks ++ (m.sent? id).toList := by
  cases sent : m.sent? id <;> simp [requests, sent]

lemma looks_append (later marks : List Incident) :
    looks id (later ++ marks) = looks id later ++ looks id marks := List.filterMap_append

lemma requests_append (later marks : List Incident) :
    requests id (later ++ marks) = requests id marks ++ requests id later := by
  rw [requests, List.filterMap_append, List.reverse_append, requests, requests]

lemma looks_look (found : Except Error String) : looks id [.looked id found] = [found] := by
  rw [looks_cons, Incident.found?, if_pos rfl]
  rfl

lemma requests_attempt (time : Duration) (r : Request) :
    requests id [.heard id, .sent id time r] = [(time, r)] := by
  have heard : (Incident.heard id).sent? id = none := rfl
  rw [requests_cons, requests_cons, heard, Incident.sent?, if_pos rfl]
  rfl

lemma mem_looks {found : Except Error String} :
    found ∈ looks id marks ↔ .looked id found ∈ marks := by
  rw [looks, List.mem_filterMap]
  constructor
  · rintro ⟨m, mem, isFound⟩
    cases m with
    | looked call other =>
      simp only [Incident.found?, Option.ite_none_right_eq_some, Option.some.injEq] at isFound
      obtain ⟨rfl, rfl⟩ := isFound
      exact mem
    | _ => cases isFound
  · intro mem
    exact ⟨_, mem, if_pos rfl⟩

end

namespace Traffic

variable {σ : Type} {net : Network σ} {t : Traffic σ} {marks : List Incident} {id : Nat}
  {e : Errand}

/-! ### Calls that nothing disturbs -/

/-- What is on record of a call that goes on alone until it has come to something. -/
structure Alone (net : Network σ) (t : Traffic σ) (id : Nat) (found : List (Except Error String))
    (sent : List (Duration × Request)) (network : σ) (result : Except Error Response)
    (marks : List Incident) : Prop where
  path : Path net t marks ({ t with network := network }.put id (.ended result))
  looks : looks id marks = found
  requests : requests id marks = sent

/-- A call has steps of its own before it goes on alone. -/
lemma Alone.after {found : List (Except Error String)} {sent : List (Duration × Request)}
    {middle network : σ} {result : Except Error Response} {p : Progress} {first : List Incident}
    (rest : Alone net ({ t with network := middle }.put id p) id found sent network result marks)
    (path : Path net t first ({ t with network := middle }.put id p)) :
    Alone net t id (found ++ Api.looks id first) (Api.requests id first ++ sent) network result
      (marks ++ first) where
  path := by
    have all := path.trans rest.path
    have last := put_put { t with network := network } id p (.ended result)
    exact last ▸ all
  looks := by rw [looks_append, rest.looks]
  requests := by rw [requests_append, rest.requests]

variable (net) in
lemma path_attempt {turn : Turn} (isThere : t.calls[id]? = some ⟨e, .due turn⟩) :
    let tried := e.client.http.attempt net t.network turn.request
    Path net t [.heard id, .sent id turn.now turn.request]
      ({ t with network := tried.state }.put id (e.hear turn tried.result tried.time)) := by
  intro tried
  have sent : Path net t [.sent id turn.now turn.request] (t.attempted id turn tried) :=
    Path.refl.tail (.send isThere)
  have underway : (t.attempted id turn tried).calls[id]?
      = some ⟨e, .underway turn tried.result tried.time⟩ :=
    getElem?_put_self (t := { t with network := tried.state }) isThere _
  have heard := sent.tail (.hear underway)
  rwa [attempted, put_put] at heard

variable (net) in
/-- The attempts of a call can follow one after the other. -/
lemma exists_alone_due (turn : Turn) (isThere : t.calls[id]? = some ⟨e, .due turn⟩) :
    let called := e.goOn net turn t.network
    ∃ marks, Alone net t id [] called.sent called.state (e.client.accept e.path called.result)
      marks := by
  -- The induction is on how many attempts are left after this one.
  induction left : turn.left using Nat.strong_induction_on generalizing t turn with
  | _ left ih =>
    have attempt := path_attempt net isThere
    have heard := e.heard_hear net turn (e.client.http.attempt net t.network turn.request)
    rw [e.goOn_eq]
    generalize e.client.http.attempt net t.network turn.request = tried at attempt heard ⊢
    dsimp only at attempt
    generalize e.hear turn tried.result tried.time = p at attempt heard
    cases heard with
    | ended notes result time last =>
      rw [last]
      exact ⟨_, attempt, rfl, requests_attempt ..⟩
    | @due next note fewer again =>
      have isNext := getElem?_put_self (t := { t with network := tried.state }) isThere (.due next)
      obtain ⟨marks, rest⟩ := ih next.left (by omega) next isNext rfl
      have all := rest.after attempt
      rw [requests_attempt] at all
      rw [again]
      exact ⟨_, all⟩

/-- A call that nothing disturbs comes to what the same call comes to all at once. -/
lemma exists_alone (isThere : t.calls[id]? = some ⟨e, .begun⟩) :
    let reached := e.call net t.session t.network
    ∃ marks, Alone net t id [t.session.accessToken] reached.sent reached.state reached.result
      marks := by
  intro reached
  have looked := e.looked_look net t.session t.network
  have path : Path net t [.looked id t.session.accessToken] (t.put id (e.look t.session)) :=
    Path.refl.tail (.look isThere)
  generalize e.look t.session = p at looked path
  cases looked with
  | ended result nothing =>
    have isResult : reached = ⟨t.network, [], [], result, .zero⟩ := nothing
    rw [isResult]
    exact ⟨_, path, looks_look .., rfl⟩
  | due turn goesOn =>
    have isResult : reached = _ := goesOn
    have isDue := getElem?_put_self isThere (.due turn)
    obtain ⟨marks, rest⟩ := exists_alone_due net turn isDue
    have all := rest.after path
    rw [looks_look] at all
    rw [isResult]
    exact ⟨_, all⟩

end Traffic

end Api

end MetricWatch
