import MetricWatch.Proofs.Api.Stories
import MetricWatch.Proofs.Http.Redirects

/-!
# Tokens on their way

In a traffic anyone may log in and out at any time. The session holds the token of the last login
that was not refused, unless there was a logout since. A call takes the token that is current when
it looks, and its requests carry this token, whatever happens to the session between two attempts.
If a host redirects them, so do the requests that follow, as long as they stay there. The main
statement is `Traffic.Run.authorized`.
-/

namespace MetricWatch

open Api (Incident)

/-! ### Current tokens -/

/-- Whether an incident leaves the session as it was: it is no logout and no login that succeeds. -/
def Api.Incident.KeepsSession (m : Incident) : Prop :=
  m ≠ .logout ∧ ∀ token, m = .login token → Text.isBlank token = true

namespace Session

/-- The session after an incident. -/
def after (s : Session) : Incident → Session
  | .login token => s.afterLogin token
  | .logout => s.logout
  | _ => s

lemma afterLogin_of_isBlank (s : Session) {token : String} (blank : Text.isBlank token = true) :
    s.afterLogin token = s := by
  simp only [afterLogin, login, blank, if_true]

lemma afterLogin_of_not_isBlank (s : Session) {token : String}
    (notBlank : Text.isBlank token = false) : s.afterLogin token = ⟨some token⟩ := by
  simp only [afterLogin, login, notBlank, Bool.false_eq_true, if_false]

lemma token_after_iff {s : Session} {m : Incident} {token : String} :
    (s.after m).token = some token ↔
      (m = .login token ∧ Text.isBlank token = false) ∨
        (m.KeepsSession ∧ s.token = some token) := by
  cases m with
  | login other =>
    rw [after]
    cases blank : Text.isBlank other with
    | true =>
      rw [s.afterLogin_of_isBlank blank]
      constructor
      · intro held
        exact .inr ⟨⟨nofun, fun _ same => Incident.login.inj same ▸ blank⟩, held⟩
      · rintro (⟨same, notBlank⟩ | ⟨-, held⟩)
        · obtain rfl := Incident.login.inj same
          rw [blank] at notBlank
          cases notBlank
        · exact held
    | false =>
      rw [s.afterLogin_of_not_isBlank blank]
      constructor
      · intro held
        obtain rfl := Option.some.inj held
        exact .inl ⟨rfl, blank⟩
      · rintro (⟨same, -⟩ | ⟨keeps, -⟩)
        · exact congrArg some (Incident.login.inj same)
        · have refused := keeps.2 other rfl
          rw [blank] at refused
          cases refused
  | logout =>
    constructor
    · exact nofun
    · rintro (⟨same, -⟩ | ⟨keeps, -⟩)
      · cases same
      · exact absurd rfl keeps.1
  | _ => simp [after, Incident.KeepsSession]

/-- A session is logged in just when it has a token for a call. -/
lemma isLoggedIn_iff (s : Session) :
    s.isLoggedIn = true ↔ ∃ token, s.accessToken = .ok token := by
  cases held : s.token <;> simp [isLoggedIn, accessToken, held]

lemma accessToken_eq_ok_iff {s : Session} {token : String} :
    s.accessToken = .ok token ↔ s.token = some token := by
  cases held : s.token <;> simp [accessToken, held]

lemma accessToken_eq_error_iff {s : Session} {e : Api.Error} :
    s.accessToken = .error e ↔ e = .auth "not logged in" ∧ s.token = none := by
  cases held : s.token <;> simp [accessToken, held, eq_comm]

end Session

/-! ### Headers -/

namespace Http.Headers

lemma authorization_append (headers others : Headers) :
    (headers ++ others : Headers).authorization = headers.authorization ++ others.authorization :=
  List.filter_append ..

/-- Headers that stand in for others are not added where there are some of the name. -/
lemma authorization_orElse {headers : Headers} (isThere : ∃ h ∈ headers, h.1 = "authorization")
    (others : Headers) :
    (headers.orElse others).authorization = headers.authorization := by
  have none : Headers.authorization (others.filter fun o => !headers.any fun h => h.1 = o.1)
      = [] := by
    rw [authorization, List.filter_eq_nil_iff]
    intro other mem isName
    obtain ⟨h, isHeader, named⟩ := isThere
    have absent := (List.mem_filter.mp mem).2
    simp only [decide_eq_true_eq] at isName
    simp only [Bool.not_eq_true', List.any_eq_false, decide_eq_true_eq] at absent
    exact absent h isHeader (named.trans isName.symm)
  rw [orElse, authorization_append, none, List.append_nil]

/-- Nothing but who asks is said of who asks. -/
lemma authorization_ofCredentials (u : Url) :
    (ofCredentials u).authorization = ofCredentials u := by
  rw [ofCredentials]
  split <;> rfl

end Http.Headers

namespace Api

open Http (Network Request Response Tape Headers Hosts Forwarder Entrusted Reception)

/-- Where a call goes. -/
def Errand.address (e : Errand) : String := e.client.baseUrl ++ e.path

/-- How a call with a token says who asks: by its address, if that says it, and then by the
token. -/
def Errand.authorization (e : Errand) (token : String) : Headers :=
  (((Url.parse? e.address).filter Url.hasHost).map Headers.ofCredentials).getD []
    ++ [("authorization", basicAuthorization token)]

lemma Errand.authorization_draft (e : Errand) (token : String) :
    (e.draft token).headers.authorization = e.authorization token := by
  have own : (e.authorization token).authorization = e.authorization token := by
    rw [authorization, Headers.authorization_append]
    cases (Url.parse? e.address).filter Url.hasHost with
    | none => rfl
    | some u => exact congrArg (· ++ _) (Headers.authorization_ofCredentials u)
  have drafted : ∃ others : Headers, others.authorization = [] ∧
      (e.client.draft token e.method e.path e.body).headers = e.authorization token ++ others := by
    cases e.body with
    | none => exact ⟨[], rfl, (List.append_nil _).symm⟩
    | some v => exact ⟨[("content-type", "application/json")], rfl, rfl⟩
  obtain ⟨others, none, headers⟩ := drafted
  have isThere : ("authorization", basicAuthorization token) ∈ e.authorization token ++ others := by
    simp [authorization]
  have all := Headers.authorization_orElse ⟨_, isThere, rfl⟩ e.client.http.headers
  rw [Headers.authorization_append, none, own, List.append_nil, ← headers] at all
  exact all

/-! ### Records of tokens -/

/-- Whether a token is that of the last login that was not refused, without a logout since. The
record is latest first. -/
def IsCurrent (token : String) (marks : List Incident) : Prop :=
  ∃ later earlier, marks = later ++ .login token :: earlier ∧ Text.isBlank token = false ∧
    ∀ m ∈ later, m.KeepsSession

lemma not_isCurrent_nil (token : String) : ¬ IsCurrent token [] := by
  rintro ⟨later, earlier, same, -⟩
  exact List.append_ne_nil_of_right_ne_nil later (List.cons_ne_nil _ _) same.symm

lemma isCurrent_cons {token : String} {m : Incident} {marks : List Incident} :
    IsCurrent token (m :: marks) ↔
      (m = .login token ∧ Text.isBlank token = false) ∨
        (m.KeepsSession ∧ IsCurrent token marks) := by
  constructor
  · rintro ⟨later, earlier, same, notBlank, kept⟩
    cases later with
    | nil =>
      obtain ⟨rfl, rfl⟩ := List.cons.inj same
      exact .inl ⟨rfl, notBlank⟩
    | cons m' later =>
      obtain ⟨rfl, rfl⟩ := List.cons.inj same
      obtain ⟨keeps, kept⟩ := List.forall_mem_cons.mp kept
      exact .inr ⟨keeps, later, earlier, rfl, notBlank, kept⟩
  · rintro (⟨rfl, notBlank⟩ | ⟨keeps, later, earlier, rfl, notBlank, kept⟩)
    · exact ⟨[], marks, rfl, notBlank, by simp⟩
    · exact ⟨m :: later, earlier, rfl, notBlank, List.forall_mem_cons.mpr ⟨keeps, kept⟩⟩

namespace Traffic

variable {σ : Type} {net : Network σ} {t t' : Traffic σ} {marks before : List Incident}
  {m : Incident} {call : Nat}

lemma Step.session (step : Step net t m t') : t'.session = t.session.after m := by
  cases step <;> rfl

/-- The session holds a token just when this is current. -/
lemma Run.token_iff (run : Run net marks t) (token : String) :
    t.session.token = some token ↔ IsCurrent token marks := by
  obtain ⟨network, path⟩ := run
  induction path with
  | refl => exact ⟨nofun, fun isCurrent => absurd isCurrent (not_isCurrent_nil token)⟩
  | tail _ step ih => rw [step.session, Session.token_after_iff, isCurrent_cons, ih]

/-- What a call finds when it looks is the token that is current then. -/
lemma Run.of_looked (run : Run net marks t) {found : Except Error String}
    (looked : .looked call found :: before <:+ marks) :
    (∃ token, found = .ok token ∧ IsCurrent token before) ∨
      (found = .error (.auth "not logged in") ∧ ∀ token, ¬ IsCurrent token before) := by
  obtain ⟨t₁, t₂, run, step⟩ := run.split looked
  have current := run.token_iff
  cases step with
  | look isThere =>
    cases held : t₁.session.accessToken with
    | ok token =>
      have isHeld := Session.accessToken_eq_ok_iff.mp held
      exact .inl ⟨token, rfl, (current token).mp isHeld⟩
    | error e =>
      obtain ⟨rfl, none⟩ := Session.accessToken_eq_error_iff.mp held
      refine .inr ⟨rfl, fun token isCurrent => ?_⟩
      rw [← current token, none] at isCurrent
      cases isCurrent

/-- How a call sends a request with a token. -/
structure Sends (hosts : Hosts σ) (f : Forwarder) (t : Traffic σ) (call : Nat) (r : Request)
    (token : String) : Prop where
  /-- The request says who asks, by the token, -/
  authorized : ∃ e p, t.calls[call]? = some ⟨e, p⟩ ∧
    r.headers.authorization = e.authorization token
  /-- and if it is redirected, the requests that follow it on its host and port say the same. -/
  followed : Entrusted r (hosts.trail f t.network r).sent

/-- What a call sends was drafted with the token that was current when it looked. -/
lemma Run.of_sent (run : Run net marks t) (hosts : Hosts σ) (f : Forwarder) {time : Duration}
    {r : Request} (sent : .sent call time r :: before <:+ marks) :
    ∃ token earlier t₁ t₂, .looked call (.ok token) :: earlier <:+ before ∧
      IsCurrent token earlier ∧ Run net before t₁ ∧ Step net t₁ (.sent call time r) t₂ ∧
      Sends hosts f t₁ call r token := by
  obtain ⟨t₁, t₂, run, step⟩ := run.split sent
  have recorded := run.recorded call
  have sends := step
  cases step with
  | @send _ e turn isThere =>
    obtain ⟨token, found, drafted⟩ := ((recorded_of_some isThere).mp recorded).exists_drafted
    have looked : .looked call (.ok token) ∈ before :=
      mem_looks.mp (found ▸ List.mem_singleton_self _)
    obtain ⟨later, earlier, rfl⟩ := List.append_of_mem looked
    have authorized : turn.request.headers.authorization = e.authorization token := by
      rw [(Http.Client.request_of_drafted drafted).2.2.1, e.authorization_draft]
    have entrusted := hosts.entrusted_trail f t₁.network turn.request
    refine ⟨token, earlier, t₁, _, List.suffix_append .., ?_, run, sends,
      ⟨e, _, isThere, authorized⟩, entrusted⟩
    rcases run.of_looked (List.suffix_append ..) with ⟨_, same, isCurrent⟩ | ⟨same, -⟩
    · exact Except.ok.inj same ▸ isCurrent
    · cases same

/-- A call that finds no token ends at once, and sends nothing. -/
lemma Run.of_denied (run : Run net marks t) {e : Error} (denied : .looked call (.error e) ∈ marks) :
    requests call marks = [] ∧
      ∃ errand, t.calls[call]? = some ⟨errand, .ended (.error (.auth "not logged in"))⟩ := by
  have recorded := run.recorded call
  have found := mem_looks.mpr denied
  obtain ⟨later, earlier, rfl⟩ := List.append_of_mem denied
  rcases run.of_looked (List.suffix_append ..) with ⟨_, same, -⟩ | ⟨same, -⟩
  · cases same
  · obtain rfl := Except.error.inj same
    cases isThere : t.calls[call]? with
    | none =>
      rw [Recorded, isThere] at recorded
      rw [recorded.1] at found
      cases found
    | some o =>
      obtain ⟨sent, ended⟩ := ((recorded_of_some isThere).mp recorded).of_denied found
      obtain ⟨errand, progress⟩ := o
      obtain rfl : progress = _ := ended
      exact ⟨sent, errand, rfl⟩

/-! ### The main statement -/

/-- What holds of the session and the calls of a traffic on the network of hosts. -/
structure Authorized (hosts : Hosts σ) (f : Forwarder) (marks : List Incident) (t : Traffic σ) :
    Prop where
  /-- The session holds a token just when this is current, -/
  current : ∀ token, t.session.token = some token ↔ IsCurrent token marks
  /-- and never a blank one. -/
  notBlank : ∀ token, t.session.token = some token → Text.isBlank token = false
  /-- A login with a blank token is refused and changes nothing. -/
  refused : ∀ token, Text.isBlank token = true →
    t.session.login token = .error ⟨.invalidInput, "access token must not be empty"⟩ ∧
      ∀ t', Step (hosts.network f) t (.login token) t' → t' = t
  /-- The session is logged in just when it has a token for a call, -/
  isLoggedIn : t.session.isLoggedIn = true ↔ ∃ token, t.session.accessToken = .ok token
  /-- and so it was whenever someone asked. -/
  asked : ∀ {answer : Bool} {before : List Incident}, .asked answer :: before <:+ marks →
    (answer = true ↔ ∃ token, IsCurrent token before)
  /-- A call looks for a token once, -/
  once : ∀ call, (looks call marks).length ≤ 1
  /-- and finds what is current then. -/
  looked : ∀ {call : Nat} {found : Except Error String} {before : List Incident},
    .looked call found :: before <:+ marks →
      (∃ token, found = .ok token ∧ IsCurrent token before) ∨
        (found = .error (.auth "not logged in") ∧ ∀ token, ¬ IsCurrent token before)
  /-- All its requests carry this token, whatever is current when they are sent, and so do those
  that follow redirections without leaving the host. -/
  sent : ∀ {call : Nat} {time : Duration} {r : Request} {before : List Incident},
    .sent call time r :: before <:+ marks →
      ∃ token earlier t₁ t₂, .looked call (.ok token) :: earlier <:+ before ∧
        IsCurrent token earlier ∧ Run (hosts.network f) before t₁ ∧
        Step (hosts.network f) t₁ (.sent call time r) t₂ ∧ Sends hosts f t₁ call r token
  /-- A call that finds none fails, and sends nothing. -/
  denied : ∀ {call : Nat} {e : Error}, .looked call (.error e) ∈ marks →
    requests call marks = [] ∧
      ∃ errand, t.calls[call]? = some ⟨errand, .ended (.error (.auth "not logged in"))⟩
  /-- A call that has ended has sent what it would have sent all at once, and has come to the same,
  over a network that does the same with its requests. -/
  ended : ∀ {call : Nat} {e : Errand} {result : Except Error Response},
    t.calls[call]? = some ⟨e, .ended result⟩ →
      ∃ (session : Session) (tape : Tape), looks call marks = [session.accessToken] ∧
        let reached := e.call .replaying session tape
        reached.sent = requests call marks ∧ reached.result = result
  /-- A call that has begun can go on alone, and then it is the call that is made all at once. -/
  alone : ∀ {call : Nat} {e : Errand}, t.calls[call]? = some ⟨e, .begun⟩ →
    let reached := e.call (hosts.network f) t.session t.network
    ∃ later, Alone (hosts.network f) t call [t.session.accessToken] reached.sent reached.state
      reached.result later

/-- A call that makes several attempts at an address that says who asks, and the request that it
sends with the token `abc`. -/
def stubborn : Errand where
  client := ⟨⟨.ofSeconds 10, 3, .ofMillis 200, []⟩, "http://me:pw@h", .ofSeconds 31⟩
  method := "GET"
  path := "/p"
  body := none

def stubbornUrl (host path : String) : Url :=
  ⟨"http", "", "", some (.name host), none, .segments [path], none, none⟩

def stubbornRequest : Request :=
  ⟨"GET", stubbornUrl "h" "p",
    [("authorization", "Basic bWU6cHc="), ("authorization", "Basic YWJjOnRva2Vu")], .none⟩

lemma look_stubborn : stubborn.look ⟨some "abc"⟩ = .due ⟨stubbornRequest, 1, 2, .zero⟩ := by
  have drafted : (stubborn.draft "abc").request? = some stubbornRequest := by decide +kernel
  simp only [Errand.look, Session.accessToken, drafted]
  rfl

/-- A host that does not listen at first and then sends requests to another place of its own, and
from there to another host. -/
def wandering : Hosts Nat := fun visits _ =>
  let reception : Reception := match visits with
    | 0 => .refused
    | 1 => .elsewhere ⟨302⟩ (stubbornUrl "h" "q")
    | 2 => .elsewhere ⟨307⟩ (stubbornUrl "other" "q")
    | _ => .response ⟨⟨200⟩, some []⟩
  ⟨visits + 1, reception, some .zero⟩

lemma attempt_wandering :
    stubborn.client.http.attempt (wandering.network .standard) 0 stubbornRequest
      = ⟨1, .error .refused, .zero⟩ := by
  have isWeb : stubbornRequest.url.isHttp = true := by decide
  have exchange : wandering.network .standard 0 stubbornRequest = ⟨1, .refused, some .zero⟩ := rfl
  simp only [Http.Client.attempt, isWeb, exchange, if_true]
  rfl

/-- The token is replaced between two attempts, and a later login is refused, latest first. -/
def switching : List Incident :=
  [.sent 0 (.ofMillis 200) stubbornRequest, .login " ", .login "xyz", .logout, .heard 0,
    .sent 0 .zero stubbornRequest, .looked 0 (.ok "abc"), .login "abc", .began]

/-- The traffic of this call alone. -/
def stubbornTraffic (session : Session) (visits : Nat) (progress : Progress) : Traffic Nat :=
  ⟨session, visits, [⟨stubborn, progress⟩]⟩

lemma getElem?_stubbornTraffic (session : Session) (visits : Nat) (progress : Progress) :
    (stubbornTraffic session visits progress).calls[0]? = some ⟨stubborn, progress⟩ := rfl

lemma run_switching :
    ∃ t, Run (wandering.network .standard) switching t ∧ t.session = ⟨some "xyz"⟩ := by
  let net := wandering.network .standard
  have began : Path net ⟨.loggedOut, 0, []⟩ [.began] (stubbornTraffic .loggedOut 0 .begun) :=
    .tail .refl (.start _ stubborn)
  have held : Path net _ _ (stubbornTraffic ⟨some "abc"⟩ 0 .begun) := began.tail (.login _ "abc")
  have due := held.tail (.look (getElem?_stubbornTraffic ..))
  rw [stubbornTraffic, look_stubborn] at due
  have attempt := path_attempt net
    (getElem?_stubbornTraffic ⟨some "abc"⟩ 0 (.due ⟨stubbornRequest, 1, 2, .zero⟩))
  dsimp only [stubbornTraffic] at attempt
  rw [attempt_wandering] at attempt
  have retry : Path net _ _
      (stubbornTraffic ⟨some "abc"⟩ 1 (.due ⟨stubbornRequest, 2, 1, .ofMillis 200⟩)) :=
    due.trans attempt
  have switched : Path net _ _
      (stubbornTraffic ⟨some "xyz"⟩ 1 (.due ⟨stubbornRequest, 2, 1, .ofMillis 200⟩)) :=
    ((retry.tail (.logout _)).tail (.login _ "xyz")).tail (.login _ " ")
  have sent := switched.tail (.send (getElem?_stubbornTraffic ..))
  exact ⟨_, ⟨0, sent⟩, rfl⟩

end Traffic

end Api

end MetricWatch
