import MetricWatch.Api.Source
import MetricWatch.Proofs.Cluster.Texts
import MetricWatch.Proofs.Http.Attempts
import MetricWatch.Proofs.Text.Utf8

/-!
# What the cluster's answers come to

A call for metrics sends one request again and again, and the answer that counts is either accepted
as it is or refused with an error of the kind that its status tells. The main statement is
`Client.metrics_scripted`.
-/

namespace MetricWatch.Api

open Http (Status Response Network Answers Request)

/-! ### Accepted and refused answers -/

/-- Whether an answer is a success with a body that says what the metrics are. -/
structure Accepted (response : Status × List UInt8) (answer : ClusterAnswer) : Prop where
  isSuccess : response.1.isSuccess = true
  hasBody : response.1.code ≠ 204 ∧ response.1.code ≠ 205 ∧ response.2 ≠ []
  decoded : ClusterAnswer.form.ofBytes response.2 = .ok answer

/-- The kind of error that an answer is that is not accepted. -/
def refusal (status : Status) : ErrorKind :=
  if status.code = 401 ∨ status.code = 403 then .auth
  else if status.code = 404 then .notFound
  else if status.isClientError ∧ status.code ≠ 429 then .invalidInput
  else if status.isSuccess then .decode
  else .network

/-- What whoever asked for metrics gets to know of an answer. -/
inductive Judged (response : Status × List UInt8) : Reply ClusterAnswer → Prop
  | accepted {answer : ClusterAnswer} (accepted : Accepted response answer) :
      Judged response (.ok answer)
  | refused (refused : ∀ answer, ¬ Accepted response answer) (detail : String) :
      Judged response (.failed ⟨refusal response.1, detail⟩)

lemma kind_ofStatus {status : Status} (noSuccess : status.isSuccess = false)
    (url body : String) : (Error.ofStatus status url body).kind = refusal status := by
  -- The cases stand in the order in which the client tells statuses apart.
  by_cases auth : status.code = 401 ∨ status.code = 403
  · simp [Error.ofStatus, refusal, auth, Error.kind]
  · by_cases rateLimit : status.code = 429
    · simp [Error.ofStatus, refusal, rateLimit, noSuccess, Error.kind]
    · by_cases notFound : status.code = 404
      · simp [Error.ofStatus, refusal, notFound, Error.kind]
      · by_cases server : status.isServerError
        · have noClient : status.isClientError = false := by
            simp only [Status.isServerError, Status.isClientError] at server ⊢
            simp at server ⊢
            omega
          simp [Error.ofStatus, refusal, auth, rateLimit, notFound, server, noClient, noSuccess,
            Error.kind]
        · cases client : status.isClientError <;>
            simp [Error.ofStatus, refusal, auth, rateLimit, notFound, server, client, noSuccess,
              Error.kind]

lemma refusal_of_success {status : Status} (success : status.isSuccess = true) :
    refusal status = .decode := by
  have range : 200 ≤ status.code ∧ status.code < 300 := by
    simpa [Status.isSuccess] using success
  have noClient : status.isClientError = false := by
    simp only [Status.isClientError]
    simp
    omega
  have others : ¬ (status.code = 401 ∨ status.code = 403) ∧ status.code ≠ 404 := by omega
  simp [refusal, others, noClient, success]

/-- Null is no answer. -/
lemma ofValue_null : ∃ fault, ClusterAnswer.form.ofValue .null = .error fault := ⟨_, rfl⟩

lemma Judged.of_error {response : Status × List UInt8} {e : Error}
    (refused : ∀ answer, ¬ Accepted response answer) (kind : e.kind = refusal response.1) :
    Judged response (reply (.error e)) := by
  have failed : reply (α := ClusterAnswer) (.error e) = .failed ⟨refusal response.1, e.message⟩ := by
    rw [← kind]
    rfl
  rw [failed]
  exact .refused refused _

lemma judged_decode (path : String) {status : Status} (success : status.isSuccess = true)
    (body : List UInt8) : Judged (status, body)
      (reply (decode ClusterAnswer.form path ⟨status, some body⟩)) := by
  have kind (detail : String) : (Error.decode detail).kind = refusal status :=
    (refusal_of_success success).symm
  by_cases noBody : status.isBodiless = true ∨ body.isEmpty = true
  · obtain ⟨fault, isNull⟩ := ofValue_null
    simp only [decode, if_pos noBody, isNull]
    refine .of_error (fun answer accepted => ?_) (kind _)
    obtain ⟨no204, no205, nonempty⟩ := accepted.hasBody
    simp [Status.isBodiless, no204, no205, nonempty] at noBody
  · simp only [decode, if_neg noBody]
    cases decoded : ClusterAnswer.form.ofBytes body with
    | error fault =>
      refine .of_error (fun answer accepted => ?_) (kind _)
      cases decoded.symm.trans accepted.decoded
    | ok answer =>
      simp [Status.isBodiless] at noBody
      exact .accepted ⟨success, ⟨noBody.1.1, noBody.1.2, noBody.2⟩, decoded⟩

lemma judged_accept (c : Client) (path : String) (response : Status × List UInt8) :
    Judged response (reply ((c.accept path (some (.ok ⟨response.1, some response.2⟩))).bind
      (decode ClusterAnswer.form path))) := by
  obtain ⟨status, body⟩ := response
  cases success : status.isSuccess with
  | false =>
    simp only [Client.accept, success]
    refine .of_error (fun answer accepted => ?_) (kind_ofStatus success _ _)
    cases success.symm.trans accepted.isSuccess
  | true =>
    simp only [Client.accept, success]
    exact judged_decode path success body

/-! ### The request -/

/-- The JSON that asks for metrics. -/
def metricsJson (names : List String) : Json.Value :=
  .object [("metrics", .array (names.map .string))]

/-- The request that asks for metrics. Where the URL says who asks, a header says it instead, before
that of the token. -/
def Client.metricsRequest (c : Client) (url : Url) (token : String) (names : List String) :
    Request where
  method := "POST"
  url := url.anonymous
  headers := Http.Headers.orElse
    (Http.Headers.ofCredentials url ++
      [("authorization", basicAuthorization token), ("content-type", "application/json")])
    c.http.headers
  body := .bytes (Text.Utf8.encode (metricsJson names).toText)

/-- Whether a body is JSON with names under `metrics` and nothing else, which is a request for the
metrics of these names. -/
structure AsksFor (names : List String) (data : List UInt8) : Prop where
  value : Json.Value.ofText (Text.Utf8.decode data) = .ok (metricsJson names)
  request : MetricsRequest.form.ofBytes data = .ok ⟨names⟩

lemma toValue_metricsRequest (names : List String) :
    MetricsRequest.form.toValue ⟨names⟩ = metricsJson names := by
  simp [MetricsRequest.form, Json.Form.toValue, Json.Form.list, Json.Form.text, Json.Shape.write,
    Json.Fields.need, Json.Fields.writeParts, Json.putPart, metricsJson]

/-- What is sent is read again as what was to be asked. -/
lemma asksFor_metricsJson (names : List String) :
    AsksFor names (Text.Utf8.encode (metricsJson names).toText) := by
  have returns := MetricsRequest.returns ⟨names⟩
  have fits : (MetricsRequest.form.toValue ⟨names⟩).Fits Json.nestingLimit :=
    Json.Shape.fits_write _ (by decide) returns.keeps.proper
  have texts : MetricsRequest.form.Texts ⟨names⟩ := .of_returns returns (by decide) (by decide)
  have written : MetricsRequest.form.toText ⟨names⟩ = (metricsJson names).toText :=
    congrArg Json.Value.toText (toValue_metricsRequest names)
  refine ⟨?_, ?_⟩
  · rw [Text.Utf8.decode_encode, ← toValue_metricsRequest]
    exact fits.ofText_toText
  · rw [Json.Form.ofBytes, Text.Utf8.decode_encode, ← written]
    exact texts.written

lemma request?_metrics {c : Client} {url : Url}
    (address : Url.parse? (c.baseUrl ++ metricsPath) = some url) (hasHost : url.hasHost = true)
    (token : String) (names : List String) :
    let d := c.draft token "POST" metricsPath (some (MetricsRequest.form.toValue ⟨names⟩))
    ({ d with headers := d.headers.orElse c.http.headers } : Http.Draft).request?
      = some (c.metricsRequest url token names) := by
  simp only [Client.draft, Http.Draft.start, Http.Draft.request?, Http.Draft.url?, address,
    Option.filter_some, hasHost, if_true, toValue_metricsRequest, Option.map_some,
    Option.getD_some, List.append_assoc]
  rfl

/-! ### A call for metrics -/

/-- Where a target is, as far as a client of it is concerned. -/
structure Serves (target : Target) (c : Client) (url : Url) : Prop where
  built : Client.build target = .ok c
  address : Url.parse? (c.baseUrl ++ metricsPath) = some url
  hasHost : url.hasHost = true
  isWeb : url.isHttp = true
  timely : 0 < target.timeout.nanos

/-- How many attempts a target allows. -/
def Target.attempts (target : Target) : Nat := max 1 target.maxAttempts

lemma built_eq {target : Target} {c : Client} (built : Client.build target = .ok c) :
    c.http.timeout = target.timeout ∧ c.http.maxAttempts = target.attempts ∧
      c.callTimeout = timeLimit target.timeout target.attempts := by
  simp only [Client.build, Http.ClientParts.build] at built
  split at built
  · cases built
  · have once : max 1 (max 1 target.maxAttempts) = target.attempts :=
      Nat.max_eq_right (Nat.le_max_left 1 _)
    cases built
    exact ⟨rfl, once, congrArg (timeLimit target.timeout) once⟩

/-- A call for metrics over the network of a script. -/
theorem Client.metrics_scripted {target : Target} {c : Client} {url : Url}
    (serves : Serves target c url) {session : Session} {token : String}
    (held : session.accessToken = .ok token) {script : Answers} (answered : Nat)
    (names : List String) :
    let passed := Http.passedOver (fun i => script (answered + i)) target.attempts
    let reached := c.metrics (.scripted script) session answered names
    c.http.slept 1 passed < c.callTimeout.nanos →
      reached.state = answered + passed + 1 ∧
      reached.sent.map Prod.snd = List.replicate (passed + 1) (c.metricsRequest url token names) ∧
      Judged (script (answered + passed)) (reply reached.result) ∧
      reached.time.nanos = c.http.slept 1 passed := by
  intro passed reached quick
  obtain ⟨timeout, attempts, limit⟩ := built_eq serves.built
  have drafted := request?_metrics serves.address serves.hasHost token names
  have bounded : c.callTimeout.nanos ≤ Duration.longest.nanos := by
    rw [limit]
    exact Duration.nanos_ofNanos_le _
  have same : max 1 c.http.maxAttempts = target.attempts := by
    rw [attempts, Target.attempts]
    omega
  have isWeb : (c.metricsRequest url token names).url.isHttp = true :=
    url.isHttp_anonymous.trans serves.isWeb
  have gets := Http.Client.send_scripted script drafted isWeb
    (timeout ▸ serves.timely) bounded answered (by rw [same]; exact quick)
  rw [same] at gets
  have judged := judged_accept c metricsPath (script (answered + passed))
  rw [← gets.result] at judged
  simp only [reached, Client.metrics, Client.post, Client.call, held, Reached.map]
  exact ⟨gets.state, gets.sent, judged, gets.time⟩

end MetricWatch.Api
