import MetricWatch.Api.Source
import MetricWatch.Proofs.Rounds.Nodes

/-!
# Asking for the nodes over HTTP

A call for the nodes brings the ids of its answer in the order in which they are listed, if there is
an answer: a session, a response with success, and a body that lists nodes. Whatever is missing, the
call brings an error. The main statement is `Client.result_nodes`.
-/

namespace MetricWatch.Api

open Http (Network Status Response)

variable {σ : Type}

/-- Whether a call for the nodes gets an answer that lists them: it is made in a session, a response
comes in time, it is a success, and its body is the answer. -/
inductive Client.Learns (c : Client) (net : Network σ) (session : Session) (state : σ)
    (answer : NodesAnswer) : Prop
  | intro {token : String} {status : Status} {body : List UInt8}
      (held : session.accessToken = .ok token)
      (came : (c.http.send net (some c.callTimeout) state
        (c.draft token "GET" nodesPath none)).result = some (.ok ⟨status, some body⟩))
      (isSuccess : status.isSuccess = true) (hasBody : ¬ (status.isBodiless ∨ body.isEmpty))
      (decoded : NodesAnswer.form.ofBytes body = .ok answer)

/-- Null lists no nodes. -/
lemma ofValue_null_nodes : ∃ fault, NodesAnswer.form.ofValue .null = .error fault := ⟨_, rfl⟩

lemma decode_nodes {path : String} {status : Status} {body? : Option (List UInt8)}
    {answer : NodesAnswer} : decode NodesAnswer.form path ⟨status, body?⟩ = .ok answer ↔
      ∃ body, body? = some body ∧ ¬ (status.isBodiless ∨ body.isEmpty) ∧
        NodesAnswer.form.ofBytes body = .ok answer := by
  cases body? with
  | none =>
    refine ⟨nofun, ?_⟩
    rintro ⟨_, isBody, -⟩
    cases isBody
  | some body =>
    simp only [Option.some.injEq, exists_eq_left']
    by_cases noBody : status.isBodiless ∨ body.isEmpty
    · obtain ⟨fault, isNull⟩ := ofValue_null_nodes
      simp only [decode, if_pos noBody, isNull]
      exact ⟨nofun, fun hasBody => absurd noBody hasBody.1⟩
    · simp only [decode, if_neg noBody]
      cases NodesAnswer.form.ofBytes body with
      | error fault => exact ⟨nofun, fun listed => nomatch listed.2⟩
      | ok read =>
        exact ⟨fun same => ⟨noBody, congrArg _ (Except.ok.inj same)⟩,
          fun listed => congrArg _ (Except.ok.inj listed.2)⟩

lemma accept_eq_ok {c : Client} {path : String}
    {result : Option (Except MetricWatch.Error Response)} {r : Response} :
    c.accept path result = .ok r ↔ result = some (.ok r) ∧ r.status.isSuccess = true := by
  rcases result with - | e | r'
  · exact ⟨nofun, nofun⟩
  · exact ⟨nofun, nofun⟩
  · simp only [Client.accept, Option.some.injEq, Except.ok.injEq]
    split
    next isSuccess =>
      rw [Except.ok.injEq]
      exact ⟨fun same => ⟨same, same ▸ isSuccess⟩, fun came => came.1⟩
    next noSuccess =>
      refine ⟨nofun, ?_⟩
      rintro ⟨rfl, isSuccess⟩
      exact absurd isSuccess noSuccess

/-- A call gets through in a session, to a response with success. -/
lemma call_eq_ok {c : Client} {net : Network σ} {session : Session} {state : σ}
    {method path : String} {body : Option Json.Value} {r : Response} :
    (c.call net session state method path body).result = .ok r ↔
      ∃ token, session.accessToken = .ok token ∧ (c.http.send net (some c.callTimeout) state
        (c.draft token method path body)).result = some (.ok r) ∧ r.status.isSuccess = true := by
  unfold Client.call
  cases session.accessToken with
  | error e =>
    refine ⟨nofun, ?_⟩
    rintro ⟨_, held, -⟩
    cases held
  | ok token => simp only [Except.ok.injEq, exists_eq_left', accept_eq_ok]

/-- A call for the nodes brings the ids of its answer, or an error if it has none. -/
theorem Client.result_nodes (c : Client) (net : Network σ) (session : Session) (state : σ)
    (ids : List String) : (c.nodes net session state).result = .ok ids ↔
      ∃ answer, c.Learns net session state answer ∧ ids = answer.ids := by
  have read : (c.nodes net session state).result
      = ((c.call net session state "GET" nodesPath none).result.bind
        (decode NodesAnswer.form nodesPath)).map NodesAnswer.ids := rfl
  rw [read]
  constructor
  · intro brought
    cases called : (c.call net session state "GET" nodesPath none).result with
    | error e =>
      rw [called] at brought
      cases brought
    | ok r =>
      obtain ⟨status, body?⟩ := r
      rw [called, Except.bind] at brought
      cases decoded : decode NodesAnswer.form nodesPath ⟨status, body?⟩ with
      | error e =>
        rw [decoded] at brought
        cases brought
      | ok answer =>
        rw [decoded] at brought
        obtain ⟨token, held, came, isSuccess⟩ := call_eq_ok.mp called
        obtain ⟨body, rfl, hasBody, decoded⟩ := decode_nodes.mp decoded
        exact ⟨answer, .intro held came isSuccess hasBody decoded, (Except.ok.inj brought).symm⟩
  · rintro ⟨answer, ⟨held, came, isSuccess, hasBody, decoded⟩, rfl⟩
    rw [call_eq_ok.mpr ⟨_, held, came, isSuccess⟩, Except.bind,
      decode_nodes.mpr ⟨_, rfl, hasBody, decoded⟩]
    rfl

/-- Asking over HTTP never breaks down. -/
lemma not_breaks (net : Network σ) (c : Client) (node namesNamespace : String) :
    ¬ (source net c).Breaks node namesNamespace := by
  rintro ⟨state, session, now, text, broke⟩
  have isReply : reply (c.names net session state.network node namesNamespace).result
      = .broke text := broke
  cases result : (c.names net session state.network node namesNamespace).result <;>
    rw [result] at isReply <;> cases isReply

end MetricWatch.Api
