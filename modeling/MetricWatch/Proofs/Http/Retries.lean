import MetricWatch.Http.Client
import Mathlib.Algebra.Group.Nat.Defs
import Mathlib.Order.Bounds.Defs
import Mathlib.Order.Monotone.Basic
import Mathlib.Tactic.Lemma

/-!
# Retries

A client makes its attempts one after the other, whatever the network does with them, up to the
first that brings something final or to the last that is allowed. What this attempt brought is the
result, and all the waiting is the backoff between two attempts. The main statement is
`Client.retried`.
-/

namespace MetricWatch.Http

/-! ### What calls for another attempt -/

/-- Whether another attempt may fare better: the server failed, or the request got lost. -/
inductive Passing : Except Failure Response → Prop
  | serverError {response : Response} (least : 500 ≤ response.status.code)
      (below : response.status.code < 600) : Passing (.ok response)
  | timedOut : Passing (.error .timedOut)
  | refused : Passing (.error .refused)
  | broken (url : Url) : Passing (.error (.broken url))

/-- No failure reads as if the attempts had run out. -/
lemma Failure.kind_toError (failure : Failure) : failure.toError.kind ≠ .internal := by
  cases failure with
  | status s =>
    intro internal
    simp only [toError, kindOfStatus] at internal
    split_ifs at internal
  | timedOut | refused | broken | misdirected | unmakeable | undecodable => exact nofun

/-! ### Scripts -/

/-- The network that does with one request after the other what a script says, in the time that the
script says. -/
def Network.following (script : Nat → Outcome × Option Duration) : Network Nat := fun asked _ =>
  ⟨asked + 1, (script asked).1, (script asked).2⟩

namespace Client

variable {σ : Type} {c : Client} {net : Network σ} {r : Request} {limit : Option Duration}
  {number left : Nat} {now : Duration} {state : σ}

/-! ### After an attempt -/

lemma retryNote?_eq_none_iff {result : Except Failure Response} :
    retryNote? result = none ↔ ¬ Passing result := by
  cases result with
  | ok response =>
    have range : response.status.isServerError = true ↔
        500 ≤ response.status.code ∧ response.status.code < 600 := by
      simp [Status.isServerError]
    constructor
    · rintro none (⟨least, below⟩ | _)
      rw [retryNote?, if_pos (range.mpr ⟨least, below⟩)] at none
      cases none
    · intro final
      rw [retryNote?, if_neg]
      intro serverError
      obtain ⟨least, below⟩ := range.mp serverError
      exact final (.serverError least below)
  | error failure =>
    constructor
    · rintro none (_ | _ | _ | _) <;> cases none
    · intro final
      cases failure with
      | timedOut => exact absurd .timedOut final
      | refused => exact absurd .refused final
      | broken url => exact absurd (.broken url) final
      | misdirected | unmakeable | status | undecodable => rfl

/-- What is to be done after an attempt. -/
inductive Verdict
  /-- What it brought is the result. -/
  | stop
  /-- The limit has been reached. -/
  | cut (notes : List Note)
  /-- There is another attempt at a time. -/
  | again (note : Note) (next : Duration)

/-- What is to be done when an attempt is over, so many being left after it. -/
def verdict (c : Client) (limit : Option Duration) (number left : Nat) (done : Duration)
    (result : Except Failure Response) : Verdict :=
  if hasReached limit done then .cut []
  else match (if left = 0 then none else retryNote? result) with
    | none => .stop
    | some note =>
      let next := done.add (c.delayBefore number)
      if isPast limit next then .cut [note] else .again note next

/-- What a call comes to after an attempt that was made at a time, so many being left. -/
def proceed (c : Client) (net : Network σ) (limit : Option Duration) (r : Request)
    (number left : Nat) (now : Duration) (tried : Tried σ) : Called σ :=
  match c.verdict limit number left (now.add tried.time) tried.result with
  | .stop =>
    ⟨tried.state, [(now, r)], [], some (tried.result.mapError Failure.toError),
      now.add tried.time⟩
  | .cut notes => ⟨tried.state, [(now, r)], notes, none, limit.getD (now.add tried.time)⟩
  | .again note next =>
    (c.attemptFrom net limit r (number + 1) left next tried.state).after (now, r) [note]

variable (c net limit r number left now state) in
/-- The attempts go on as the verdict on the first of them says. -/
lemma attemptFrom_succ :
    c.attemptFrom net limit r number (left + 1) now state =
      c.proceed net limit r number left now (c.attempt net state r) := by
  rw [attemptFrom, proceed, verdict]
  by_cases late : hasReached limit (now.add (c.attempt net state r).time) = true
  · simp only [if_pos late]
  · simp only [if_neg late]
    cases retry : if left = 0 then none else retryNote? (c.attempt net state r).result with
    | none => rfl
    | some note =>
      dsimp only
      split <;> rfl

variable (c net limit r number left now) in
/-- An attempt is sent first, whatever comes after it. -/
lemma exists_sent_proceed (tried : Tried σ) :
    ∃ later, (c.proceed net limit r number left now tried).sent = (now, r) :: later := by
  rw [proceed]
  split
  · exact ⟨[], rfl⟩
  · exact ⟨[], rfl⟩
  · exact ⟨_, rfl⟩

variable (c net limit r number left now state) in
/-- All attempts send the same request. -/
lemma sent_attemptFrom :
    ∀ sent ∈ (c.attemptFrom net limit r number left now state).sent, sent.2 = r := by
  induction left generalizing number now state with
  | zero => exact fun sent none => nomatch none
  | succ left ih =>
    rw [attemptFrom_succ, proceed]
    split
    · simp
    · simp
    · simpa [Called.after] using ih _ _ _

/-- What is sent is what was drafted, with all headers. -/
lemma drafted_of_sent {d : Draft} {sent : Duration × Request}
    (isSent : sent ∈ (c.send net limit state d).sent) :
    ({ d with headers := d.headers.orElse c.headers } : Draft).request? = some sent.2 := by
  rw [send] at isSent
  split at isSent
  · cases isSent
  · next r drafted =>
    rw [sent_attemptFrom _ _ _ _ _ _ _ _ sent isSent]
    exact drafted

/-- Without a limit an attempt is the last if it brought something final or none is left. -/
lemma verdict_stop {done : Duration} {result : Except Failure Response}
    (final : ¬ Passing result ∨ left = 0) : c.verdict none number left done result = .stop := by
  have noRetry : (if left = 0 then none else retryNote? result) = none := by
    rcases final with final | rfl
    · rw [retryNote?_eq_none_iff.mpr final, ite_self]
    · rfl
  simp [verdict, hasReached, noRetry]

/-- Without a limit there is another attempt otherwise, after the backoff. -/
lemma verdict_again (c : Client) (number : Nat) (done : Duration)
    {result : Except Failure Response} (passing : Passing result) (more : left ≠ 0) :
    ∃ note, c.verdict none number left done result
      = .again note (done.add (c.delayBefore number)) := by
  obtain ⟨note, retry⟩ : ∃ note, retryNote? result = some note := by
    rw [← Option.ne_none_iff_exists']
    exact fun none => retryNote?_eq_none_iff.mp none passing
  exact ⟨note, by simp [verdict, hasReached, isPast, more, retry]⟩

/-- There is another attempt only if one is left. -/
lemma exists_of_again {done next : Duration} {result : Except Failure Response} {note : Note}
    (again : c.verdict limit number left done result = .again note next) :
    ∃ fewer, left = fewer + 1 := by
  cases left with
  | zero =>
    simp only [verdict, if_true] at again
    split at again <;> cases again
  | succ fewer => exact ⟨fewer, rfl⟩

/-! ### All attempts -/

/-- The attempts that there are if every one calls for another. -/
def tried (c : Client) (net : Network σ) (r : Request) (state : σ) : Nat → Tried σ
  | 0 => c.attempt net state r
  | i + 1 => c.attempt net (tried c net r state i).state r

/-- When these attempts are made: the first at once, and every other when the one before is over
and the backoff has passed. -/
def begins (c : Client) (net : Network σ) (r : Request) (state : σ) : Nat → Duration
  | 0 => .zero
  | i + 1 =>
    ((begins c net r state i).add (c.tried net r state i).time).add (c.delayBefore (i + 1))

/-- What a call comes to whose last attempt is the one of a number. -/
structure EndsWith (c : Client) (net : Network σ) (r : Request) (start : σ) (first last : Nat)
    (called : Called σ) : Prop where
  state : called.state = (c.tried net r start last).state
  sent : called.sent
    = (List.range' first (last + 1 - first)).map fun i => (c.begins net r start i, r)
  result : called.result = some ((c.tried net r start last).result.mapError Failure.toError)
  time : called.time = (c.begins net r start last).add (c.tried net r start last).time

variable (c net r state) in
/-- Without a limit the attempts from one on go up to the first that brings something final, or to
the last that is left. -/
lemma attemptFrom_endsWith (i left : Nat) {before : σ}
    (here : c.attempt net before r = c.tried net r state i) :
    ∃ last, i ≤ last ∧ last ≤ i + left ∧
      (∀ j, i ≤ j → j < last → Passing (c.tried net r state j).result) ∧
      (¬ Passing (c.tried net r state last).result ∨ last = i + left) ∧
      c.EndsWith net r state i last
        (c.attemptFrom net none r (i + 1) (left + 1) (c.begins net r state i) before) := by
  -- The induction is on how many attempts are left after this one.
  induction left generalizing i before with
  | zero =>
    refine ⟨i, Nat.le_refl _, Nat.le_refl _, fun j low high => ?_, .inr rfl, ?_⟩
    · exact absurd low (Nat.not_le_of_lt high)
    · rw [attemptFrom_succ, here, proceed, verdict_stop (.inr rfl)]
      exact ⟨rfl, by simp, rfl, rfl⟩
  | succ left ih =>
    by_cases passing : Passing (c.tried net r state i).result
    · obtain ⟨note, again⟩ := c.verdict_again (i + 1)
        ((c.begins net r state i).add (c.tried net r state i).time) passing (Nat.succ_ne_zero left)
      have next : c.attempt net (c.tried net r state i).state r = c.tried net r state (i + 1) := rfl
      obtain ⟨last, low, high, passed, final, ends⟩ := ih (i + 1) next
      refine ⟨last, Nat.le_of_succ_le low, by omega, fun j least below => ?_, ?_, ?_⟩
      · rcases Nat.eq_or_lt_of_le least with rfl | later
        · exact passing
        · exact passed j later below
      · exact final.imp_right fun all => by omega
      · rw [attemptFrom_succ, here, proceed, again]
        have sent : last + 1 - i = last + 1 - (i + 1) + 1 := by omega
        refine ⟨ends.state, ?_, ends.result, ends.time⟩
        rw [sent, List.range'_succ, List.map_cons]
        exact congrArg (_ :: ·) ends.sent
    · refine ⟨i, Nat.le_refl _, Nat.le_add_right _ _, fun j low high => ?_, .inl passing, ?_⟩
      · exact absurd low (Nat.not_le_of_lt high)
      · rw [attemptFrom_succ, here, proceed, verdict_stop (.inl passing)]
        exact ⟨rfl, by simp, rfl, rfl⟩

/-! ### Backoff -/

/-- The backoff is doubled for every retry until it has been doubled eight times. -/
lemma nanos_delayBefore (c : Client) (i : Nat) :
    (c.delayBefore i).nanos
      = min (c.backoff.nanos * 2 ^ min (i - 1) 8) Duration.longest.nanos := rfl

lemma delayBefore_mono (c : Client) : Monotone fun i => (c.delayBefore i).nanos := by
  intro i j le
  have exponent : min (i - 1) 8 ≤ min (j - 1) 8 := by omega
  have doubled : 2 ^ min (i - 1) 8 ≤ 2 ^ min (j - 1) 8 := Nat.pow_le_pow_right (by decide) exponent
  have waited := Nat.mul_le_mul_left c.backoff.nanos doubled
  simp only [nanos_delayBefore]
  omega

/-! ### The main statement -/

/-- What sending a draft comes to when its attempts are counted from zero and one of them is the
last. -/
structure Retried (c : Client) (net : Network σ) (start : σ) (d : Draft) (r : Request)
    (last : Nat) (called : Called σ) : Prop where
  /-- The last attempt is the first that brings something final or uses up the attempts. -/
  least : IsLeast {i | ¬ Passing (c.tried net r start i).result ∨ i + 1 = max 1 c.maxAttempts} last
  /-- The attempts up to it are all that there are. Each is made when the one before is over and the
  backoff has passed, and all carry the same request, -/
  sent : called.sent = (List.range (last + 1)).map fun i => (c.begins net r start i, r)
  /-- which is what was drafted, without who asks in its URL and with the headers of the client where
  the draft has none. -/
  request : r.method = d.method ∧ (Url.parse? d.address).map Url.anonymous = some r.url ∧
    r.headers = d.headers.orElse c.headers ∧ r.body = d.body
  /-- What the last attempt brought is the result: a response as it is, a failure as an error. -/
  result : called.result = some ((c.tried net r start last).result.mapError Failure.toError)
  /-- Nothing is waited for afterwards. -/
  time : called.time = (c.begins net r start last).add (c.tried net r start last).time
  state : called.state = (c.tried net r start last).state
  /-- The backoff doubles, but not for ever, -/
  backoff : ∀ i, (c.delayBefore i).nanos
    = min (c.backoff.nanos * 2 ^ min (i - 1) 8) Duration.longest.nanos
  /-- and never shrinks. -/
  growing : Monotone fun i => (c.delayBefore i).nanos
  /-- The attempts never run out without a result. -/
  neverOut : called.result
    ≠ some (.error ⟨.internal, "http client ran out of attempts without a response"⟩)

lemma request_of_drafted {d : Draft} (drafted : d.request? = some r) :
    r.method = d.method ∧ (Url.parse? d.address).map Url.anonymous = some r.url ∧
      r.headers = d.headers ∧ r.body = d.body := by
  rw [Draft.request?, Draft.url?] at drafted
  split at drafted
  · cases drafted
  · cases drafted
  next found _ =>
    cases drafted
    have address := (Option.filter_eq_some_iff.mp found).1
    exact ⟨rfl, congrArg (Option.map Url.anonymous) address, rfl, rfl⟩

/-- A draft that can be sent more than once is sent again and again, up to the first attempt that
brings something final or the last that is allowed. -/
theorem retried (net : Network σ) (start : σ) {d : Draft}
    (drafted : ({ d with headers := d.headers.orElse c.headers } : Draft).request? = some r) :
    ∃ last, c.Retried net start d r last (c.send net none start d) := by
  obtain ⟨left, attempts⟩ : ∃ left, max 1 c.maxAttempts = left + 1 :=
    ⟨max 1 c.maxAttempts - 1, by omega⟩
  obtain ⟨last, -, few, passed, final, ends⟩ :=
    c.attemptFrom_endsWith net r start 0 left rfl
  have ends : c.EndsWith net r start 0 last (c.send net none start d) := by
    rw [send, drafted, attempts]
    exact ends
  have least (i : Nat) (stops : ¬ Passing (c.tried net r start i).result ∨ i + 1 = left + 1) :
      last ≤ i := by
    apply Nat.le_of_not_lt
    intro before
    rcases stops with final | all
    · exact final (passed i (Nat.zero_le i) before)
    · omega
  have sent := ends.sent
  rw [Nat.sub_zero, ← List.range_eq_range'] at sent
  refine ⟨last, ?_, sent, request_of_drafted drafted, ends.result, ends.time, ends.state,
    c.nanos_delayBefore, c.delayBefore_mono, fun out => ?_⟩
  · rw [attempts]
    exact ⟨final.imp_right fun all => by omega, least⟩
  · rw [ends.result] at out
    cases brought : (c.tried net r start last).result with
    | ok response =>
      rw [brought] at out
      cases out
    | error failure =>
      rw [brought] at out
      exact failure.kind_toError (congrArg Error.kind (Except.error.inj (Option.some.inj out)))

/-- A server that is out of order, then does not listen, then sends its clients in a circle. -/
def circling : Nat → Outcome × Option Duration
  | 0 => (.response ⟨⟨503⟩, some []⟩, some .zero)
  | 1 => (.refused, some (.ofMillis 1))
  | _ =>
    (.misdirected ⟨"http", "", "", some (.name "h"), none, .segments [""], none, none⟩, some .zero)

theorem retried_circling :
    let c : Client := ⟨.ofSeconds 10, 5, .ofMillis 200, [("accept", "*/*")]⟩
    let d : Draft :=
      { method := "GET", address := "http://h/", headers := [("accept", "text/plain")] }
    let called := c.send (.following circling) none 0 d
    ∃ r, ({ d with headers := d.headers.orElse c.headers } : Draft).request? = some r ∧
      (∃ last, c.Retried (.following circling) 0 d r last called) ∧
      called.sent.map (fun s => s.1.millis) = [0, 200, 601] := by
  intro c d called
  have drafted : ({ d with headers := d.headers.orElse c.headers } : Draft).request?
      = some ⟨"GET", ⟨"http", "", "", some (.name "h"), none, .segments [""], none, none⟩,
          [("accept", "text/plain")], .none⟩ := by decide +kernel
  exact ⟨_, drafted, retried _ _ drafted, by decide +kernel⟩

end Client

end MetricWatch.Http
