import MetricWatch.Api.Client
import Mathlib.Tactic.Lemma
import Mathlib.Data.List.Basic

/-!
# Attempts against a script

A server that answers at once what a script says. A client goes through the script until an answer
comes that is no server error or its attempts are used up, and this answer is the result, as long
as the client did not wait too long in between. The main statement is `Client.send_scripted`.
-/

namespace MetricWatch

namespace Duration

lemma nanos_add {a b : Duration} (short : a.nanos + b.nanos ≤ longest.nanos) :
    (a.add b).nanos = a.nanos + b.nanos := Nat.min_eq_left short

lemma nanos_ofNanos_le (n : Nat) : (ofNanos n).nanos ≤ longest.nanos := Nat.min_le_right ..

end Duration

namespace Http

/-- What servers say: a status and a body for every request, in order. -/
abbrev Answers := Nat → Status × List UInt8

/-- The server that answers at once what a script says. Its state is how many requests it got. -/
def Network.scripted (script : Answers) : Network Nat := fun answered _ =>
  ⟨answered + 1, .response ⟨(script answered).1, some (script answered).2⟩, some .zero⟩

/-- How many of so many answers are passed over: those before the first that is no server error,
or all but the last. -/
def passedOver (script : Answers) (attempts : Nat) : Nat :=
  ((List.range attempts).find? fun i => !(script i).1.isServerError).getD (attempts - 1)

/-- How long a client waits in all before so many attempts after one. -/
def Client.slept (c : Client) (number : Nat) : Nat → Nat
  | 0 => 0
  | retries + 1 => (c.delayBefore number).nanos + c.slept (number + 1) retries

/-! ### The answer that counts -/

section

variable {script : Answers} {attempts : Nat}

lemma passedOver_lt (some_ : 0 < attempts) : passedOver script attempts < attempts := by
  unfold passedOver
  cases found : (List.range attempts).find? fun i => !(script i).1.isServerError with
  | none => exact Nat.sub_lt some_ Nat.one_pos
  | some k => exact List.mem_range.mp (List.mem_of_find?_eq_some found)

lemma isServerError_of_lt {i : Nat} (before : i < passedOver script attempts) :
    (script i).1.isServerError = true := by
  unfold passedOver at before
  cases found : (List.range attempts).find? fun i => !(script i).1.isServerError with
  | none =>
    rw [found] at before
    have all := List.find?_eq_none.mp found i (List.mem_range.mpr (by simp at before; omega))
    simpa using all
  | some k =>
    rw [found] at before
    obtain ⟨-, -, earlier⟩ := List.find?_range_eq_some.mp found
    simpa using earlier i before

lemma not_isServerError_or_last : (script (passedOver script attempts)).1.isServerError = false ∨
    passedOver script attempts = attempts - 1 := by
  unfold passedOver
  cases found : (List.range attempts).find? fun i => !(script i).1.isServerError with
  | none => exact .inr rfl
  | some k => exact .inl (by simpa using List.find?_some found)

end

/-! ### One attempt after the other -/

namespace Client

variable {c : Client} {script : Answers} {r : Request}

lemma attempt_scripted (isWeb : r.url.isHttp = true) (timely : 0 < c.timeout.nanos) (state : Nat) :
    c.attempt (.scripted script) state r
      = ⟨state + 1, .ok ⟨(script state).1, some (script state).2⟩, .zero⟩ := by
  simp only [attempt, Network.scripted, if_pos isWeb]
  exact if_pos timely

/-- What a client gets from a script when it passes over so many answers. -/
structure Gets (script : Answers) (r : Request) (answered retries slept : Nat)
    (called : Called Nat) : Prop where
  state : called.state = answered + retries + 1
  sent : called.sent.map Prod.snd = List.replicate (retries + 1) r
  result : called.result
    = some (.ok ⟨(script (answered + retries)).1, some (script (answered + retries)).2⟩)
  time : called.time.nanos = slept

section

variable {limit now : Duration} {number state : Nat} (left : Nat)

/-- The answer that counts. -/
lemma attemptFrom_done (isWeb : r.url.isHttp = true) (timely : 0 < c.timeout.nanos)
    (bounded : limit.nanos ≤ Duration.longest.nanos) (quick : now.nanos < limit.nanos)
    (done : (script state).1.isServerError = false ∨ left = 0) :
    Gets script r state 0 now.nanos
      (c.attemptFrom (.scripted script) (some limit) r number (left + 1) now state) := by
  have time : (now.add .zero).nanos = now.nanos := Duration.nanos_add (by
    simp only [Duration.zero]
    omega)
  have inTime : hasReached (some limit) (now.add .zero) = false := by
    simp [hasReached, time, quick]
  have noRetry : (if left = 0 then none else
      retryNote? (.ok ⟨(script state).1, some (script state).2⟩)) = none := by
    rcases done with noError | rfl
    · simp [retryNote?, noError]
    · rfl
  simp only [attemptFrom, attempt_scripted isWeb timely, inTime, noRetry]
  exact ⟨rfl, rfl, rfl, time⟩

/-- A server error after which there is another attempt. -/
lemma attemptFrom_again (isWeb : r.url.isHttp = true) (timely : 0 < c.timeout.nanos)
    (bounded : limit.nanos ≤ Duration.longest.nanos)
    (quick : now.nanos + (c.delayBefore number).nanos < limit.nanos)
    (isError : (script state).1.isServerError = true) :
    ∃ again : Duration, again.nanos = now.nanos + (c.delayBefore number).nanos ∧
      c.attemptFrom (.scripted script) (some limit) r number (left + 1 + 1) now state
        = (c.attemptFrom (.scripted script) (some limit) r (number + 1) (left + 1) again
            (state + 1)).after (now, r) [.warn "server error, retrying"] := by
  have time : (now.add .zero).nanos = now.nanos := Duration.nanos_add (by
    simp only [Duration.zero]
    omega)
  have next : ((now.add .zero).add (c.delayBefore number)).nanos
      = now.nanos + (c.delayBefore number).nanos := by
    rw [Duration.nanos_add (by omega), time]
  have inTime : hasReached (some limit) (now.add .zero) = false := by
    simp only [hasReached, Option.any_some, time]
    simp
    omega
  have inTimeAgain : isPast (some limit) ((now.add .zero).add (c.delayBefore number)) = false := by
    simp only [isPast, Option.any_some, next]
    simp
    omega
  have retry : (if left + 1 = 0 then none else
      retryNote? (.ok ⟨(script state).1, some (script state).2⟩))
        = some (.warn "server error, retrying") := by
    simp [retryNote?, isError]
  refine ⟨_, next, ?_⟩
  rw [attemptFrom]
  simp only [attempt_scripted isWeb timely, inTime, retry, inTimeAgain]
  rfl

end

lemma attemptFrom_scripted (isWeb : r.url.isHttp = true) (timely : 0 < c.timeout.nanos)
    {limit now : Duration} {number left state : Nat}
    (bounded : limit.nanos ≤ Duration.longest.nanos) (retries : Nat)
    (errors : ∀ i < retries, (script (state + i)).1.isServerError = true) (more : retries ≤ left)
    (last : (script (state + retries)).1.isServerError = false ∨ retries = left)
    (quick : now.nanos + c.slept number retries < limit.nanos) :
    Gets script r state retries (now.nanos + c.slept number retries)
      (c.attemptFrom (.scripted script) (some limit) r number (left + 1) now state) := by
  -- The induction is on how many answers are still to be passed over.
  induction retries generalizing number left now state with
  | zero => exact attemptFrom_done left isWeb timely bounded quick (last.imp_right Eq.symm)
  | succ retries ih =>
    obtain ⟨left, rfl⟩ : ∃ more, left = more + 1 := ⟨left - 1, by omega⟩
    simp only [slept, ← Nat.add_assoc] at quick ⊢
    have inTime : now.nanos + (c.delayBefore number).nanos < limit.nanos := by omega
    have isError : (script state).1.isServerError = true := errors 0 (Nat.succ_pos _)
    obtain ⟨again, time, step⟩ := attemptFrom_again left isWeb timely bounded inTime isError
    have errors' (i : Nat) (before : i < retries) :
        (script (state + 1 + i)).1.isServerError = true := by
      rw [Nat.add_right_comm]
      exact errors (i + 1) (Nat.succ_lt_succ before)
    have last' : (script (state + 1 + retries)).1.isServerError = false ∨ retries = left := by
      rw [Nat.add_right_comm]
      exact last.imp_right Nat.succ.inj
    have quick' : again.nanos + c.slept (number + 1) retries < limit.nanos := by omega
    have rest := ih errors' (Nat.le_of_succ_le_succ more) last' quick'
    rw [step]
    refine ⟨?_, ?_, ?_, ?_⟩
    · have state := rest.state
      simp only [Called.after]
      omega
    · simp only [Called.after, List.map_cons, rest.sent, List.replicate_succ (n := retries + 1)]
    · have result := rest.result
      rw [Nat.add_right_comm] at result
      exact result
    · have time := rest.time
      simp only [Called.after]
      omega

variable (script) in
/-- A request goes through the script up to the first answer that is no server error, or to the
last attempt. -/
theorem send_scripted {d : Draft}
    (drafted : ({ d with headers := d.headers.orElse c.headers } : Draft).request? = some r)
    (isWeb : r.url.isHttp = true) (timely : 0 < c.timeout.nanos) {limit : Duration}
    (bounded : limit.nanos ≤ Duration.longest.nanos) (state : Nat)
    (quick : c.slept 1 (passedOver (fun i => script (state + i)) (max 1 c.maxAttempts))
      < limit.nanos) :
    Gets script r state (passedOver (fun i => script (state + i)) (max 1 c.maxAttempts))
      (c.slept 1 (passedOver (fun i => script (state + i)) (max 1 c.maxAttempts)))
      (c.send (.scripted script) (some limit) state d) := by
  obtain ⟨left, attempts⟩ : ∃ left, max 1 c.maxAttempts = left + 1 :=
    ⟨max 1 c.maxAttempts - 1, by omega⟩
  simp only [send, drafted, attempts] at quick ⊢
  let later : Answers := fun i => script (state + i)
  have fewer : passedOver later (left + 1) < left + 1 := passedOver_lt (Nat.succ_pos left)
  have errors (i : Nat) (before : i < passedOver later (left + 1)) :
      (later i).1.isServerError = true := isServerError_of_lt before
  have last : (later (passedOver later (left + 1))).1.isServerError = false ∨
      passedOver later (left + 1) = left := not_isServerError_or_last
  have inTime : Duration.zero.nanos + c.slept 1 (passedOver later (left + 1)) < limit.nanos := by
    simpa [Duration.zero] using quick
  have gets := attemptFrom_scripted isWeb timely bounded _ errors (Nat.le_of_lt_succ fewer) last
    inTime
  simpa [Duration.zero] using gets

end Client

end Http

end MetricWatch
