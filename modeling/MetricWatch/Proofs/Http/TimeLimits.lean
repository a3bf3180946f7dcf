import MetricWatch.Proofs.Http.Answers
import MetricWatch.Proofs.Http.Retries

/-!
# The time limit of a call

A call is cut short at its limit, which counts the time of every attempt and a second more. The
backoff between three attempts takes less than this second, and so no call of up to three attempts
is cut short. The backoff between four takes more, and then a call to a server that never answers
does not get all of its attempts. The main statement is `Client.limited`, and `limited_too_early`
shows a call that is cut short before its last attempt.
-/

namespace MetricWatch

lemma Duration.eq_of_nanos {a b : Duration} (same : a.nanos = b.nanos) : a = b :=
  congrArg Duration.mk same

namespace Http

/-- The network on which nothing is ever answered. -/
def Network.silent : Network Unit := fun _ _ => ⟨(), .refused, none⟩

namespace Client

variable {σ : Type} {c : Client} {r : Request} {limit done : Duration} {number left : Nat}

/-- How long a client takes at most: the whole time of every attempt and the backoff between
them. -/
def longestCall (c : Client) : Duration :=
  (c.timeout.times c.maxAttempts).add (.ofNanos (c.slept 1 (c.maxAttempts - 1)))

lemma nanos_longestCall (c : Client) : c.longestCall.nanos
    = min (c.timeout.nanos * c.maxAttempts + c.slept 1 (c.maxAttempts - 1))
        Duration.longest.nanos := by
  simp only [longestCall, Duration.add, Duration.times, Duration.ofNanos]
  omega

lemma slept_mono (c : Client) (number : Nat) {few many : Nat} (le : few ≤ many) :
    c.slept number few ≤ c.slept number many := by
  induction few generalizing number many with
  | zero => exact Nat.zero_le _
  | succ few ih =>
    obtain ⟨many, rfl⟩ : ∃ rest, many = rest + 1 := ⟨many - 1, by omega⟩
    exact Nat.add_le_add_left (ih (number + 1) (Nat.le_of_succ_le_succ le)) _

/-- No attempt takes longer than it may. -/
lemma time_attempt_le (c : Client) (net : Network σ) (state : σ) (r : Request) :
    (c.attempt net state r).time.nanos ≤ c.timeout.nanos := by
  rw [attempt]
  split
  · dsimp only
    split
    · exact Nat.le_refl _
    · split
      next quick => split <;> exact Nat.le_of_lt quick
      next => exact Nat.le_refl _
  · exact Nat.zero_le _

/-! ### Enough time -/

/-- An attempt that is over in time, with time for the backoff if there is to be another, is not cut
short. -/
lemma verdict_inTime (c : Client) (number : Nat) (result : Except Failure Response)
    (quick : done.nanos < limit.nanos)
    (rested : left ≠ 0 → (done.add (c.delayBefore number)).nanos ≤ limit.nanos) :
    c.verdict (some limit) number left done result = .stop ∨
      left ≠ 0 ∧ ∃ note, c.verdict (some limit) number left done result
        = .again note (done.add (c.delayBefore number)) := by
  have inTime : hasReached (some limit) done = false := by simpa [hasReached] using quick
  by_cases last : left = 0
  · left
    simp [verdict, inTime, last]
  · cases retry : retryNote? result with
    | none =>
      left
      simp [verdict, inTime, retry]
    | some note =>
      right
      have inTimeAgain : isPast (some limit) (done.add (c.delayBefore number)) = false := by
        simpa [isPast] using rested last
      exact ⟨last, note, by simp [verdict, inTime, last, retry, inTimeAgain]⟩

/-- A limit beyond all the time that the attempts may take cuts none of them short. -/
lemma attemptFrom_ne_none (net : Network σ) (bounded : limit.nanos ≤ Duration.longest.nanos)
    {now : Duration} {state : σ}
    (enough : now.nanos + c.timeout.nanos * (left + 1) + c.slept number left < limit.nanos) :
    (c.attemptFrom net (some limit) r number (left + 1) now state).result ≠ none := by
  -- The induction is on how many attempts are left after this one.
  induction left generalizing number now state with
  | zero =>
    have quick := c.time_attempt_le net state r
    have done := Duration.nanos_add (a := now) (b := (c.attempt net state r).time) (by omega)
    have inTime : (now.add (c.attempt net state r).time).nanos < limit.nanos := by omega
    rw [attemptFrom_succ, proceed]
    obtain stop | ⟨more, -⟩ := c.verdict_inTime number (c.attempt net state r).result inTime
      fun more : 0 ≠ 0 => absurd rfl more
    · rw [stop]
      exact Option.some_ne_none _
    · exact absurd rfl more
  | succ left ih =>
    have quick := c.time_attempt_le net state r
    simp only [slept, Nat.mul_add_one] at enough
    have done := Duration.nanos_add (a := now) (b := (c.attempt net state r).time) (by omega)
    have next := Duration.nanos_add (a := now.add (c.attempt net state r).time)
      (b := c.delayBefore number) (by omega)
    have inTime : (now.add (c.attempt net state r).time).nanos < limit.nanos := by omega
    rw [attemptFrom_succ, proceed]
    obtain stop | ⟨-, note, again⟩ := c.verdict_inTime number (c.attempt net state r).result inTime
      fun _ : left + 1 ≠ 0 => by omega
    · rw [stop]
      exact Option.some_ne_none _
    · rw [again]
      exact ih (by rw [Nat.mul_add_one]; omega)

lemma send_ne_none (net : Network σ) (bounded : limit.nanos ≤ Duration.longest.nanos)
    (attempts : max 1 c.maxAttempts = left + 1)
    (enough : c.timeout.nanos * (left + 1) + c.slept 1 left < limit.nanos) (state : σ) (d : Draft) :
    (c.send net (some limit) state d).result ≠ none := by
  rw [send]
  split
  · exact Option.some_ne_none _
  · rw [attempts]
    apply attemptFrom_ne_none net bounded
    rw [Duration.zero, Nat.zero_add]
    exact enough

/-! ### Too little time -/

/-- A call that is cut short at its limit when it has made one attempt after the other, all of them
for nothing. -/
structure CutShort (c : Client) (limit : Duration) (r : Request) (number : Nat) (now : Duration)
    (left : Nat) (called : Called Unit) : Prop where
  result : called.result = none
  time : called.time = limit
  sent : ∃ more ≤ left, called.sent = (List.range (more + 1)).map fun i =>
    (⟨now.nanos + c.timeout.nanos * i + c.slept number i⟩, r)

lemma verdict_late {result : Except Failure Response} (late : limit.nanos ≤ done.nanos) :
    c.verdict (some limit) number left done result = .cut [] := by
  have reached : hasReached (some limit) done = true := by simpa [hasReached] using late
  rw [verdict, if_pos reached]

/-- An attempt that got no answer in time is followed by another, unless the limit comes first. -/
lemma verdict_timedOut (c : Client) (number : Nat) (quick : done.nanos < limit.nanos) (more : left ≠ 0) :
    ∃ note, c.verdict (some limit) number left done (.error .timedOut) = .cut [note] ∨
      (done.add (c.delayBefore number)).nanos ≤ limit.nanos ∧
        c.verdict (some limit) number left done (.error .timedOut)
          = .again note (done.add (c.delayBefore number)) := by
  have inTime : hasReached (some limit) done = false := by simpa [hasReached] using quick
  have retry : retryNote? (.error .timedOut) = some (.warn "transport error, retrying") := rfl
  refine ⟨.warn "transport error, retrying", ?_⟩
  rcases Nat.lt_or_ge limit.nanos (done.add (c.delayBefore number)).nanos with past | inTimeAgain
  · left
    simp [verdict, inTime, more, retry, isPast, past]
  · right
    exact ⟨inTimeAgain, by simp [verdict, inTime, more, retry, isPast, inTimeAgain]⟩

/-- An attempt after which the call is cut short is the last. -/
lemma CutShort.of_cut {now : Duration} {notes : List Note} :
    c.CutShort limit r number now left ⟨(), [(now, r)], notes, none, limit⟩ :=
  ⟨rfl, rfl, 0, Nat.zero_le _, rfl⟩

/-- Attempts that are cut short have one more before them. -/
lemma CutShort.after {now next : Duration} {called : Called Unit} {notes : List Note}
    (h : c.CutShort limit r (number + 1) next left called)
    (time : next.nanos = now.nanos + c.timeout.nanos + (c.delayBefore number).nanos) :
    c.CutShort limit r number now (left + 1) (called.after (now, r) notes) := by
  obtain ⟨result, limited, more, few, sent⟩ := h
  refine ⟨result, limited, more + 1, Nat.succ_le_succ few, ?_⟩
  rw [List.range_succ_eq_map, List.map_cons, List.map_map]
  have later (i : Nat) : next.nanos + c.timeout.nanos * i + c.slept (number + 1) i
      = now.nanos + c.timeout.nanos * (i + 1) + c.slept number (i + 1) := by
    rw [time, slept, Nat.mul_add_one]
    omega
  simp only [Called.after, sent, later, Function.comp_def]
  rfl

/-- A limit within the time that the attempts take without answers cuts them short. -/
lemma attemptFrom_silent (isWeb : r.url.isHttp = true)
    (bounded : limit.nanos < Duration.longest.nanos) {now : Duration}
    (tooShort : limit.nanos ≤ now.nanos + c.timeout.nanos * (left + 1) + c.slept number left) :
    c.CutShort limit r number now left
      (c.attemptFrom .silent (some limit) r number (left + 1) now ()) := by
  have attempt : c.attempt .silent () r = ⟨(), .error .timedOut, c.timeout⟩ := by
    rw [Client.attempt, if_pos isWeb]
    rfl
  -- The induction is on how many attempts are left after this one.
  induction left generalizing number now with
  | zero =>
    have late : limit.nanos ≤ (now.add c.timeout).nanos := by
      simp only [slept, Duration.add, Duration.ofNanos] at tooShort ⊢
      omega
    rw [attemptFrom_succ, proceed, attempt, verdict_late late]
    exact .of_cut
  | succ left ih =>
    rw [attemptFrom_succ, proceed, attempt]
    rcases Nat.lt_or_ge (now.add c.timeout).nanos limit.nanos with quick | late
    · obtain ⟨note, cut | ⟨inTime, again⟩⟩ :=
        c.verdict_timedOut number quick (Nat.succ_ne_zero left)
      · rw [cut]
        exact .of_cut
      · have next : ((now.add c.timeout).add (c.delayBefore number)).nanos
            = now.nanos + c.timeout.nanos + (c.delayBefore number).nanos := by
          simp only [Duration.add, Duration.ofNanos] at inTime quick ⊢
          omega
        rw [again]
        refine CutShort.after (ih ?_) next
        rw [next]
        simp only [slept, Nat.mul_add_one] at tooShort ⊢
        omega
    · rw [verdict_late late]
      exact .of_cut

lemma send_silent {d : Draft}
    (drafted : ({ d with headers := d.headers.orElse c.headers } : Draft).request? = some r)
    (isWeb : r.url.isHttp = true) (bounded : limit.nanos < Duration.longest.nanos)
    (attempts : max 1 c.maxAttempts = left + 1)
    (tooShort : limit.nanos ≤ c.timeout.nanos * (left + 1) + c.slept 1 left) :
    c.CutShort limit r 1 .zero left (c.send .silent (some limit) () d) := by
  rw [send, drafted, attempts]
  apply attemptFrom_silent isWeb bounded
  rw [Duration.zero, Nat.zero_add]
  exact tooShort

end Client

end Http

namespace Api

open Http (Network)

/-! ### The limit of a client -/

lemma backoff_built {target : Target} {c : Client} (built : Client.build target = .ok c) :
    c.http.backoff = .ofMillis 200 := by
  simp only [Client.build, Http.ClientParts.build] at built
  split at built
  · cases built
  · cases built
    rfl

/-- What the backoff of a built client takes between so many attempts, as far as a second. -/
lemma slept_built {target : Target} {c : Client} (built : Client.build target = .ok c) :
    c.http.slept 1 2 = 600000000 ∧ c.http.slept 1 3 = 1400000000 := by
  simp [Http.Client.slept, Http.Client.delayBefore, backoff_built built, Duration.times,
    Duration.ofMillis, Duration.ofNanos, Duration.longest, Http.Client.largestExponent]

lemma nanos_timeLimit (timeout : Duration) (attempts : Nat) :
    (timeLimit timeout attempts).nanos
      = min (timeout.nanos * min attempts mostCounted + 1000000000) Duration.longest.nanos := by
  simp only [timeLimit, Duration.add, Duration.times, Duration.ofSeconds, Duration.ofNanos]
  have second : 1 * 1000000000 ≤ Duration.longest.nanos := by decide
  omega

lemma Error.ofStatus_ne_timeout (status : Http.Status) (url body : String) (limit : Duration) :
    Error.ofStatus status url body ≠ .timeout limit := by
  intro timeout
  rw [Error.ofStatus] at timeout
  split_ifs at timeout

/-- Only a call that is cut short ends with a timeout. -/
lemma Client.accept_ne_timeout (c : Client) (path : String)
    (result : Except MetricWatch.Error Http.Response) (limit : Duration) :
    c.accept path (some result) ≠ .error (.timeout limit) := by
  cases result with
  | error e =>
    intro timeout
    obtain ⟨kind, detail⟩ := e
    cases kind <;> cases timeout
  | ok response =>
    intro timeout
    simp only [accept] at timeout
    split at timeout
    · cases timeout
    · exact Error.ofStatus_ne_timeout _ _ _ _ (Except.error.inj timeout)

/-- What a call reaches with what sending its draft came to. -/
def Client.ofCalled {σ : Type} (c : Client) (path : String) (called : Http.Client.Called σ) :
    Reached σ Http.Response :=
  ⟨called.state, called.sent, called.notes, c.accept path called.result, called.time⟩

/-- A session that holds a token sends the draft of a call. -/
lemma call_of_held {σ : Type} {c : Client} {net : Network σ} {session : Session} {state : σ}
    {token method path : String} {body : Option Json.Value}
    (held : session.accessToken = .ok token) :
    c.call net session state method path body
      = c.ofCalled path
          (c.http.send net (some c.callTimeout) state (c.draft token method path body)) := by
  simp only [Client.call, held]
  rfl

/-! ### The main statement -/

/-- What the time limit of a client is good for. -/
structure Client.Limited (target : Target) (c : Client) : Prop where
  /-- The limit leaves time for every attempt and the backoff between them just when there are up to
  three attempts, or when no duration is longer than the limit. -/
  room : c.http.longestCall.nanos ≤ c.callTimeout.nanos
    ↔ target.attempts ≤ 3 ∨ c.callTimeout = .longest
  /-- With up to three attempts no call is cut short. -/
  kept : target.attempts ≤ 3 → c.callTimeout ≠ .longest →
    ∀ {σ : Type} (net : Network σ) (session : Session) (state : σ) (method path : String)
      (body : Option Json.Value) (limit : Duration),
      (c.call net session state method path body).result ≠ .error (.timeout limit)
  /-- With more than three a call that is never answered is cut short at the limit, and if its last
  attempt was made at all, this did not have all of its time. -/
  cut : 3 < target.attempts → c.callTimeout ≠ .longest →
    ∀ {session : Session} {token method path : String} {body : Option Json.Value}
      {r : Http.Request}, session.accessToken = .ok token →
      ({ c.draft token method path body with
        headers := (c.draft token method path body).headers.orElse c.http.headers } :
          Http.Draft).request? = some r → r.url.isHttp = true →
      let reached := c.call .silent session () method path body
      reached.result = .error (.timeout c.callTimeout) ∧ reached.time = c.callTimeout ∧
        ∀ last, reached.sent[target.attempts - 1]? = some last →
          c.callTimeout.nanos < last.1.nanos + target.timeout.nanos

section

variable {target : Target} {c : Client}

/-- The limit of a built client, as long as it is not cut at the longest duration. -/
lemma nanos_callTimeout (built : Client.build target = .ok c)
    (bounded : c.callTimeout ≠ .longest) :
    c.callTimeout.nanos = target.timeout.nanos * min target.attempts mostCounted + 1000000000 ∧
      c.callTimeout.nanos < Duration.longest.nanos := by
  have limited := nanos_timeLimit target.timeout target.attempts
  rw [← (built_eq built).2.2] at limited
  have notLongest : c.callTimeout.nanos ≠ Duration.longest.nanos :=
    fun same => bounded (Duration.eq_of_nanos same)
  omega

/-- Three attempts leave some of the second over, and four take more than it. -/
lemma slept_attempts (built : Client.build target = .ok c) :
    (target.attempts ≤ 3 → c.http.slept 1 (target.attempts - 1) ≤ 600000000 ∧
      min target.attempts mostCounted = target.attempts) ∧
    (3 < target.attempts → 1400000000 ≤ c.http.slept 1 (target.attempts - 1)) := by
  obtain ⟨slept₂, slept₃⟩ := slept_built built
  constructor
  · intro few
    have counted : target.attempts ≤ mostCounted := few.trans (by decide)
    exact ⟨slept₂ ▸ c.http.slept_mono 1 (Nat.sub_le_sub_right few 1), Nat.min_eq_left counted⟩
  · intro many
    exact slept₃ ▸ c.http.slept_mono 1 (Nat.sub_le_sub_right many 1)

lemma longestCall_le_iff (built : Client.build target = .ok c) :
    c.http.longestCall.nanos ≤ c.callTimeout.nanos
      ↔ target.attempts ≤ 3 ∨ c.callTimeout = .longest := by
  obtain ⟨timeout, attempts, -⟩ := built_eq built
  obtain ⟨few, many⟩ := slept_attempts built
  rw [Http.Client.nanos_longestCall, timeout, attempts]
  by_cases bounded : c.callTimeout = .longest
  · simp only [bounded, or_true, iff_true]
    exact Nat.min_le_right ..
  · obtain ⟨limit, below⟩ := nanos_callTimeout built bounded
    have counted := Nat.mul_le_mul_left target.timeout.nanos
      (Nat.min_le_left target.attempts mostCounted)
    simp only [bounded, or_false]
    constructor
    · intro enough
      by_contra more
      have slept := many (Nat.lt_of_not_le more)
      omega
    · intro three
      obtain ⟨slept, all⟩ := few three
      rw [all] at limit
      omega

/-- A client makes the attempts that its target allows. -/
lemma attempts_built (built : Client.build target = .ok c) :
    ∃ left, max 1 c.http.maxAttempts = left + 1 ∧ target.attempts = left + 1 := by
  have attempts := (built_eq built).2.1
  have some_ : 1 ≤ target.attempts := Nat.le_max_left ..
  exact ⟨target.attempts - 1, by omega, by omega⟩

lemma call_ne_timeout (built : Client.build target = .ok c) (three : target.attempts ≤ 3)
    (bounded : c.callTimeout ≠ .longest) {σ : Type} (net : Network σ) (session : Session)
    (state : σ) (method path : String) (body : Option Json.Value) (limit : Duration) :
    (c.call net session state method path body).result ≠ .error (.timeout limit) := by
  obtain ⟨left, made, allowed⟩ := attempts_built built
  obtain ⟨limited, below⟩ := nanos_callTimeout built bounded
  obtain ⟨slept, all⟩ := (slept_attempts built).1 three
  rw [all, allowed] at limited
  rw [allowed, Nat.add_sub_cancel] at slept
  intro timeout
  cases held : session.accessToken with
  | error e =>
    simp only [Client.call, held] at timeout
    obtain rfl := Except.error.inj timeout
    cases token : session.token <;> simp [Session.accessToken, token] at held
  | ok token =>
    have answered := Http.Client.send_ne_none net (Nat.le_of_lt below) made
      (by rw [(built_eq built).1]; omega) state (c.draft token method path body)
    obtain ⟨result, answered⟩ := Option.ne_none_iff_exists'.mp answered
    rw [call_of_held held, Client.ofCalled, answered] at timeout
    exact c.accept_ne_timeout path result limit timeout

lemma call_silent (built : Client.build target = .ok c) (four : 3 < target.attempts)
    (bounded : c.callTimeout ≠ .longest) {session : Session} {token method path : String}
    {body : Option Json.Value} {r : Http.Request} (held : session.accessToken = .ok token)
    (drafted : ({ c.draft token method path body with
      headers := (c.draft token method path body).headers.orElse c.http.headers } :
        Http.Draft).request? = some r) (isWeb : r.url.isHttp = true) :
    let reached := c.call .silent session () method path body
    reached.result = .error (.timeout c.callTimeout) ∧ reached.time = c.callTimeout ∧
      ∀ last, reached.sent[target.attempts - 1]? = some last →
        c.callTimeout.nanos < last.1.nanos + target.timeout.nanos := by
  intro reached
  obtain ⟨left, made, allowed⟩ := attempts_built built
  obtain ⟨timeout, -, -⟩ := built_eq built
  obtain ⟨limited, below⟩ := nanos_callTimeout built bounded
  have slept := (slept_attempts built).2 four
  have counted := Nat.mul_le_mul_left target.timeout.nanos
    (Nat.min_le_left target.attempts mostCounted)
  rw [allowed] at slept counted limited
  rw [Nat.add_sub_cancel] at slept
  have cut := Http.Client.send_silent drafted isWeb below made (by rw [timeout]; omega)
  have isCut : reached = c.ofCalled path
      (c.http.send .silent (some c.callTimeout) () (c.draft token method path body)) :=
    call_of_held held
  rw [isCut]
  refine ⟨congrArg (c.accept path) cut.result, cut.time, fun last isLast => ?_⟩
  obtain ⟨more, few, sent⟩ := cut.sent
  rw [Client.ofCalled, sent, allowed, Nat.add_sub_cancel, List.getElem?_map,
    Option.map_eq_some_iff] at isLast
  obtain ⟨i, isLast, rfl⟩ := isLast
  obtain ⟨-, rfl⟩ := List.getElem?_eq_some_iff.mp isLast
  rw [List.getElem_range, Duration.zero, timeout]
  rw [Nat.mul_add_one] at counted
  dsimp only
  omega

end

/-- The time limit of a client leaves room for three attempts and no more. -/
theorem Client.limited {target : Target} {c : Client} (built : Client.build target = .ok c) :
    c.Limited target :=
  ⟨longestCall_le_iff built, call_ne_timeout built, call_silent built⟩

/-! ### Four attempts -/

/-- A target that allows four short attempts, and its client. -/
def hastyTarget : Target := ⟨"http://h/api", .ofMillis 50, 4⟩

def hastyClient : Client where
  http := ⟨.ofMillis 50, 4, .ofMillis 200, headers⟩
  baseUrl := "http://h/api"
  callTimeout := timeLimit (.ofMillis 50) 4

lemma hasty_built : Client.build hastyTarget = .ok hastyClient := by
  have base : withoutSlashes "http://h/api" = "http://h/api" := by decide +kernel
  simp [Client.build, hastyTarget, base, Http.ClientParts.build, hastyClient, headers,
    Http.Headers.orElse]

theorem limited_hasty : Client.build hastyTarget = .ok hastyClient ∧
    hastyClient.Limited hastyTarget := ⟨hasty_built, Client.limited hasty_built⟩

/-- Where nobody listens, the attempts take no time, but the backoff takes more than the limit, and
the fourth attempt is never made. -/
theorem limited_too_early :
    let reached := hastyClient.call .unreachable ⟨some "abc"⟩ () "GET" "/p" none
    reached.result = .error (.timeout (.ofMillis 1200)) ∧
      reached.sent.map (fun s => s.1.millis) = [0, 200, 600] ∧
      ¬ ∀ (target : Target) (c : Client), Client.build target = .ok c →
        c.http.longestCall.nanos ≤ c.callTimeout.nanos := by
  intro reached
  refine ⟨by decide +kernel, by decide +kernel, fun always => ?_⟩
  exact absurd (always _ _ hasty_built) (by decide)

end Api

end MetricWatch
