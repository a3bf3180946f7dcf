import MetricWatch.Proofs.Http.Answers
import MetricWatch.Proofs.Metric.RoundTrip
import MetricWatch.Proofs.Rounds.AtRest
import MetricWatch.Proofs.Rounds.Release
import MetricWatch.Proofs.Rounds.Requests

/-!
# List rounds over HTTP

A list round whose source calls the cluster over a network that answers at once. Whatever stands in
the script of answers, the round sends the same request up to the answer that counts, and this
answer alone decides what callers get and whether the store changes. The main statement is
`Run.listed_over_http`.
-/

namespace MetricWatch.Timeline

open Api (Wire Serves Target Accepted AsksFor Judged refusal)
open Http (Answers Body Status)

variable {target : Target} {c : Api.Client} {url : Url} {script : Answers} {marks : List Mark}
  {t t' : Timeline (Wire Nat)}

/-! ### What an answer settles -/

/-- What an answer does to a store, and what whoever waits for it gets. -/
inductive Settled (response : Status × List UInt8) (s s' : Store) : CallResult → Prop
  | updated {answer : ClusterAnswer} {u : Update} (accepted : Accepted response answer)
      (metrics : u.metrics = answer.flatten) (latest : s'.latest = some u)
      (told : s'.channel = s.channel.send (.metricsUpdated u)) :
      Settled response s s' (.listed (some (.ok u)))
  | refused (refused : ∀ answer, ¬ Accepted response answer) (detail : String)
      (latest : s'.latest = s.latest) (told : s'.channel = s.channel) :
      Settled response s s' (.listed (some (.error ⟨refusal response.1, detail⟩)))

lemma settled_conclude {response : Status × List UInt8} {reply : Reply ClusterAnswer}
    (judged : Judged response reply) (s : Store) (round time : Nat) :
    Settled response s (conclude s round time (.list reply))
      (ending s round time (.list reply)) := by
  cases judged with
  | accepted accepted => exact .updated accepted rfl rfl rfl
  | refused refused detail => exact .refused refused detail rfl rfl

/-- The call that starts a round changes nothing that answers settle. -/
lemma Settled.of_occupy {response : Status × List UInt8} {s s' : Store} {kind : RoundKind}
    {result : CallResult} (settled : Settled response (s.occupy kind) s' result) :
    Settled response s s' result := by
  cases settled with
  | updated accepted metrics latest told =>
    rw [Store.channel_occupy] at told
    exact .updated accepted metrics latest told
  | refused refused detail latest told =>
    rw [Store.latest_occupy] at latest
    rw [Store.channel_occupy] at told
    exact .refused refused detail latest told

/-! ### What a round does to the wire -/

/-- How many answers of the script a call passes over from now on. -/
def passes (script : Answers) (target : Target) (w : Wire Nat) : Nat :=
  Http.passedOver (fun i => script (w.network + i)) target.attempts

/-- What a list round does that asks for names: it sends one request as often as it takes, whose
body asks for just these, and the last answer settles it. -/
structure Fetches (target : Target) (c : Api.Client) (url : Url) (script : Answers)
    (token : String) (names : List String) (w w' : Wire Nat) (s s' : Store)
    (result : CallResult) : Prop where
  requests : w'.sent.map Prod.snd
    = List.replicate (passes script target w + 1) (c.metricsRequest url token names)
      ++ w.sent.map Prod.snd
  body : ∃ data, (c.metricsRequest url token names).body = .bytes data ∧ AsksFor names data
  settled : Settled (script (w.network + passes script target w)) s s' result

lemma requests_after {σ α : Type} (w : Wire σ) (now : Nat) (r : Api.Reached σ α) :
    (w.after now r).sent.map Prod.snd = (r.sent.map Prod.snd).reverse ++ w.sent.map Prod.snd := by
  simp [Wire.after]

lemma fetches_conclude (serves : Serves target c url) {token : String}
    (held : t.store.session.accessToken = .ok token) (names : List String)
    (quick : c.http.slept 1 (passes script target t.source) < c.callTimeout.nanos) (s : Store)
    (round time : Nat) :
    let asked := t.wouldAsk (Api.source (.scripted script) c) names
    Fetches target c url script token names t.source asked.state s
        (conclude s round time (.list asked.answer.reply))
        (ending s round time (.list asked.answer.reply)) ∧
      asked.answer.delay = c.http.slept 1 (passes script target t.source) / 1000000 := by
  obtain ⟨-, sent, judged, time⟩ :=
    Api.Client.metrics_scripted serves held t.source.network names quick
  have body := Api.asksFor_metricsJson names
  refine ⟨⟨?_, ⟨_, rfl, body⟩, settled_conclude judged s round _⟩, congrArg (· / 1000000) time⟩
  refine (requests_after t.source t.now _).trans ?_
  rw [sent, List.reverse_replicate]
  rfl

/-! ### Rounds at rest -/

/-- A call over HTTP never breaks down. -/
lemma breaks_ask (net : Http.Network Nat) (asking : Timeline (Wire Nat)) (items : List String) :
    (ask (Api.source net c) asking .list items).1.breaks = false := by
  simp only [ask, askMetrics, Api.source, Wire.asked]
  cases (c.metrics net asking.store.session asking.source.network items).result <;> rfl

/-- Where nothing is fetched the slot for list rounds is free. -/
lemma Run.vacant_of_rest (run : Run (Api.source (.scripted script) c) marks t) (rest : t.AtRest) :
    t.store.occupant .list = none := by
  -- A round that is in the slot but not fetched broke off, which a call over HTTP never does.
  by_contra occupied
  obtain ⟨round, occupied⟩ := Option.ne_none_iff_exists'.mp occupied
  rcases run.fetched_or_broken occupied with ⟨f, isThere, -⟩ | ⟨-, ⟨asking, items, broke⟩, -⟩
  · rw [rest.fetches] at isThere
    cases isThere
  · rw [breaks_ask] at broke
    cases broke

/-- Whoever holds a session may call for metrics. -/
lemma items?_of_held {s : Store} {token : String} (held : s.session.accessToken = .ok token) :
    s.items? .list = some s.registrations.toFetch := by
  have loggedIn : s.session.isLoggedIn = true := by
    unfold Session.accessToken at held
    split at held
    next isToken => simp [Session.isLoggedIn, isToken]
    next => cases held
  simp [Store.items?, loggedIn]

/-! ### The main statement -/

/-- List rounds of a run over HTTP. -/
structure ListedOverHttp (target : Target) (c : Api.Client) (url : Url) (script : Answers)
    (marks : List Mark) (t : Timeline (Wire Nat)) : Prop where
  /-- Whoever calls at rest and in a session gets what the answers say, unless the call takes too
  long, and everything is at rest again. -/
  returns : ∀ {token} (patience : Nat), t.AtRest → t.listOpen = true →
    t.store.session.accessToken = .ok token →
    c.http.slept 1 (passes script target t.source) < c.callTimeout.nanos →
    c.http.slept 1 (passes script target t.source) / 1000000 ≤ patience →
    ∃ t', (t.call .list).2.waitUntil (Api.source (.scripted script) c)
        (·.isOver .list (t.call .list).1) patience = (true, t') ∧ t'.AtRest ∧
      Fetches target c url script token t.store.registrations.toFetch t.source t'.source t.store
        t'.store (t'.resultOf .list (t.call .list).1)
  /-- Whatever else goes on, a list round that ends has asked for what was registered when it
  started, and if it asked in a session its end is what the answers say from then on, unless the
  call took too long. -/
  ends : ∀ {round time g result t'},
    Move (Api.source (.scripted script) c) t (.ended .list round time g result) t' →
    ∃ who earlier starting before asking asked,
      let names := starting.store.registrations.toFetch
      .started who .list round names :: earlier <:+ marks ∧
      Run (Api.source (.scripted script) c) earlier starting ∧
      .asked .list round names g :: before <:+ marks ∧
      Run (Api.source (.scripted script) c) before asking ∧
      Move (Api.source (.scripted script) c) asking (.asked .list round names g) asked ∧
      ∀ {token}, asking.store.session.accessToken = .ok token →
        c.http.slept 1 (passes script target asking.source) < c.callTimeout.nanos →
        Fetches target c url script token names asking.source asked.source t.store t'.store result

/-- A list round over HTTP posts what was registered when it started, again while the answers are
server errors and attempts are left. The answer that counts becomes the snapshot if it is a success
with a body that can be read; otherwise callers get an error of the kind that its status tells, and
nothing else changes. -/
theorem Run.listed_over_http (serves : Serves target c url)
    (run : Run (Api.source (.scripted script) c) marks t) :
    ListedOverHttp target c url script marks t where
  returns {token} patience rest isOpen held quick enough := by
    let names := t.store.registrations.toFetch
    have admitted : t.store.items? .list = some names := items?_of_held held
    have vacant := run.vacant_of_rest rest
    have notYet := run.orderly.result?_nextRound .list
    obtain ⟨fetches, delay⟩ := fetches_conclude serves held names quick (t.store.occupy .list)
      (t.store.nextRound .list)
      (t.now + (t.wouldAsk (Api.source (.scripted script) c) names).answer.delay)
    obtain ⟨unseen, notes, waited⟩ := rest.waitUntil_list (Api.source (.scripted script) c) names
      admitted vacant notYet isOpen (delay ▸ enough)
    refine ⟨_, waited, rest.endedList _ _ _ _, fetches.requests, fetches.body, ?_⟩
    rw [rest.call_list names admitted vacant, resultOf_endedList]
    exact fetches.settled.of_occupy
  ends {round time g result t'} move := by
    obtain ⟨items, before, asking, asked, isAsked, run', asks⟩ := run.asked_of_ended move
    obtain ⟨who, earlier, starting, _, isStarted, run₀, starts⟩ :=
      run.started_of_asked (isAsked.subset List.mem_cons_self)
    obtain ⟨-, rfl⟩ := items?_list starts.of_started.1
    refine ⟨who, earlier, starting, before, asking, asked, isStarted, run₀, isAsked, run', asks, ?_⟩
    intro token held quick
    obtain ⟨rfl, f, -, -, -, -, rfl, work⟩ := move.of_ended
    have store : t'.store = conclude t.store round t.now g := congrArg Work.store work
    obtain ⟨gathered, source⟩ := ask_list (Api.source (.scripted script) c) asking
      starting.store.registrations.toFetch
    obtain ⟨isReply, rfl⟩ := asks.of_asked
    rw [Timeline.setStage, source, store, isReply, gathered]
    exact (fetches_conclude serves held _ quick t.store round t.now).1

/-- A target, its client and where they send metrics requests. -/
def nearbyTarget : Target := ⟨"http://h", .ofSeconds 10, 3⟩

def nearbyClient : Api.Client where
  http := ⟨.ofSeconds 10, 3, .ofMillis 200, Api.headers⟩
  baseUrl := "http://h"
  callTimeout := Api.timeLimit (.ofSeconds 10) 3

def nearbyUrl : Url :=
  ⟨"http", "", "", some (.name "h"), none, .segments ["cluster", "metrics", "multiple"], none, none⟩

lemma nearby_serves : Serves nearbyTarget nearbyClient nearbyUrl where
  built := by
    have base : Api.withoutSlashes "http://h" = "http://h" := by decide +kernel
    simp [Api.Client.build, nearbyTarget, base, Http.ClientParts.build, nearbyClient, Api.headers,
      Http.Headers.orElse]
  address := by decide +kernel
  hasHost := by decide
  isWeb := by decide
  timely := by decide

/-- An answer in which a node has counted to five, and its text. -/
def answerOfFive : ClusterAnswer := [("n1", some ⟨[⟨"m", "m", .counter 5⟩], some 1⟩)]

def answerOfFiveText : String :=
  "\x7b\"n1\":\x7b\"metrics\":[\x7b\"full_name\":\"m\",\"metric\":\x7b\"count\":5\x7d," ++
    "\"name\":\"m\",\"type\":\"counter\"\x7d],\"total\":1\x7d\x7d"

lemma ofBytes_answerOfFive :
    ClusterAnswer.form.ofBytes (Text.Utf8.encode answerOfFiveText) = .ok answerOfFive := by
  have metric : (⟨"m", "m", .counter 5⟩ : Metric).Proper := trivial
  have proper : ClusterAnswer.Proper answerOfFive := by
    refine ⟨by decide, fun e mem s isSection => ?_⟩
    obtain rfl := List.mem_singleton.mp mem
    obtain rfl := Option.some.inj isSection
    exact List.forall_mem_singleton.mpr metric
  have value : ClusterAnswer.form.toValue answerOfFive = .object [("n1", .object
      [("metrics", .array [.object [("full_name", .string "m"),
        ("metric", .object [("count", .number (.nat 5))]), ("name", .string "m"),
        ("type", .string "counter")]]), ("total", .number (.nat 1))])] := by rfl
  have fits : (ClusterAnswer.form.toValue answerOfFive).Fits Json.nestingLimit := by
    rw [value]
    have count : Json.Value.Fits 124 (.object [("count", .number (.nat 5))]) :=
      .object (by decide) (by decide) (List.forall_mem_singleton.mpr (.number rfl))
    refine .object (by decide) (by decide) (List.forall_mem_singleton.mpr ?_)
    refine .object (by decide) (by decide)
      (List.forall_mem_cons.mpr ⟨?_, List.forall_mem_singleton.mpr (.number rfl)⟩)
    refine .array (by decide)
      (List.forall_mem_singleton.mpr (.object (by decide) (by decide) ?_))
    simp only [List.forall_mem_cons]
    exact ⟨.string _, count, .string _, .string _, nofun⟩
  have texts : ClusterAnswer.form.Texts answerOfFive := .of_fits proper.returns (by decide) fits
  have written : ClusterAnswer.form.toText answerOfFive = answerOfFiveText := by decide +kernel
  rw [Json.Form.ofBytes, Text.Utf8.decode_encode, ← written]
  exact texts.written

/-- A server that is out of order once and then has this answer. -/
def recovering : Answers
  | 0 => (⟨503⟩, [])
  | _ => (⟨200⟩, Text.Utf8.encode answerOfFiveText)

theorem listed_over_http_recovering : ∃ t t' : Timeline (Wire Nat),
    Run (Api.source (.scripted recovering) nearbyClient) [.chore (.addGlobal "m")] t ∧
    (t.call .list).2.waitUntil (Api.source (.scripted recovering) nearbyClient)
        (·.isOver .list (t.call .list).1) 200 = (true, t') ∧
      Fetches nearbyTarget nearbyClient nearbyUrl recovering "token" ["m"] t.source t'.source
        t.store t'.store (t'.resultOf .list (t.call .list).1) ∧
      (t'.source.sent.map fun s => (s.2.method, s.2.url.text, s.2.body))
        = List.replicate 2 ("POST", "http://h/cluster/metrics/multiple",
            Body.bytes (Text.Utf8.encode "\x7b\"metrics\":[\"m\"]\x7d")) ∧
      t'.store.latest.map Update.metrics
        = some [("n1", [("m", ⟨"m", "m", .counter 5⟩)])] := by
  let fresh : Timeline (Wire Nat) :=
    start (.fresh ⟨some "token"⟩ .unknown Store.defaultNamespace Store.defaultCapacity) ⟨0, []⟩
  have run : Run (Api.source (.scripted recovering) nearbyClient) [.chore (.addGlobal "m")]
      { fresh with store := fresh.store.perform (.addGlobal "m") } :=
    ⟨fresh, ⟨_, _, _, _, _, rfl⟩, .single (.chore fresh _)⟩
  have rest : AtRest { fresh with store := fresh.store.perform (.addGlobal "m") } :=
    ⟨rfl, rfl, rfl, fun _ _ => rfl⟩
  obtain ⟨t', waited, -, fetches⟩ := (run.listed_over_http nearby_serves).returns 200 rest rfl rfl
    (by decide) (by decide)
  refine ⟨_, t', run, waited, fetches, ?_, ?_⟩
  · have sent := congrArg (List.map fun r : Http.Request => (r.method, r.url.text, r.body))
      fetches.requests
    rw [List.map_map] at sent
    exact sent.trans (by decide +kernel)
  · -- The answer that counts is the second, and it is read as above.
    have settled := fetches.settled
    generalize t'.resultOf .list _ = result at settled
    cases settled with
    | updated accepted metrics latest =>
      obtain rfl := Except.ok.inj (accepted.decoded.symm.trans ofBytes_answerOfFive)
      rw [latest, Option.map_some, metrics]
      rfl
    | refused refused =>
      have accepted : Accepted (recovering 1) answerOfFive :=
        ⟨rfl, ⟨by decide, by decide, by decide +kernel⟩, ofBytes_answerOfFive⟩
      exact absurd accepted (refused answerOfFive)

end MetricWatch.Timeline
