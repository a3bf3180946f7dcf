import MetricWatch.Proofs.Api.Traffic

/-!
# Stories of calls

Whatever happens between two steps of a call, the call has done what it would have done all at once,
over a network that does the same with its requests. What the network did with them is kept on a
tape, and every step of the call adds to its tape what the network did in this step.
-/

namespace MetricWatch

namespace Http

/-! ### Tapes -/

/-- What a network did with requests and how long that took, in order. -/
abbrev Tape := List (Outcome × Option Duration)

/-- The network that does what is on a tape. -/
def Network.replaying : Network Tape
  | [], _ => ⟨[], .refused, some .zero⟩
  | (outcome, latency) :: tape, _ => ⟨tape, outcome, latency⟩

namespace Client

variable {σ : Type}

/-- What an attempt puts on a tape. One that is not made on the network puts nothing there. -/
def taped (net : Network σ) (state : σ) (r : Request) : Tape :=
  if r.url.isHttp then [((net state r).outcome, (net state r).latency)] else []

/-- An attempt comes to the same over its tape. -/
lemma attempt_replaying (c : Client) (net : Network σ) (state : σ) (r : Request) (future : Tape) :
    c.attempt .replaying (taped net state r ++ future) r
      = ⟨future, (c.attempt net state r).result, (c.attempt net state r).time⟩ := by
  by_cases isWeb : r.url.isHttp = true
  · simp only [attempt, taped, isWeb, if_true, Network.replaying, List.singleton_append]
    cases (net state r).latency with
    | none => rfl
    | some time =>
      dsimp only
      split
      · cases (net state r).outcome <;> rfl
      · rfl
  · simp only [attempt, taped, isWeb, Bool.false_eq_true, if_false, List.nil_append]

end Client

end Http

namespace Api

open Http (Network Request Response Tape Failure)

/-! ### Accounts -/

/-- How a call with a session stands that has sent some requests, compared to the same call made all
at once. The tape has what the network did with these requests, and the comparison holds whatever it
is going to do. -/
inductive Account (e : Errand) (session : Session) (tape : Tape) :
    List (Duration × Request) → Progress → Prop
  | due {sent : List (Duration × Request)} {turn : Turn}
      (goesOn : ∀ future, let reached := e.call .replaying session (tape ++ future)
        reached.sent = sent ++ (e.goOn .replaying turn future).sent ∧
          reached.result = e.client.accept e.path (e.goOn .replaying turn future).result) :
      Account e session tape sent (.due turn)
  | underway {sent : List (Duration × Request)} {turn : Turn} {result : Except Failure Response}
      {time : Duration}
      (goesOn : ∀ future, let reached := e.call .replaying session (tape ++ future)
        let called := e.goOnAfter .replaying turn ⟨future, result, time⟩
        reached.sent = sent ++ called.sent ∧
          reached.result = e.client.accept e.path called.result) :
      Account e session tape (sent ++ [(turn.now, turn.request)]) (.underway turn result time)
  | ended {sent : List (Duration × Request)} {result : Except Error Response}
      (same : ∀ future, let reached := e.call .replaying session (tape ++ future)
        reached.sent = sent ∧ reached.result = result) :
      Account e session tape sent (.ended result)
  | abandoned {sent : List (Duration × Request)} {token : String}
      (held : session.accessToken = .ok token)
      (isPart : sent <+: (e.call .replaying session tape).sent) :
      Account e session tape sent .abandoned

namespace Account

variable {e : Errand} {session : Session} {tape : Tape} {sent : List (Duration × Request)}
  {turn : Turn} {result : Except Failure Response} {time : Duration} {p : Progress}

/-- What was sent is the beginning of what is sent all at once. -/
lemma isPrefix (account : Account e session tape sent p) :
    sent <+: (e.call .replaying session tape).sent := by
  cases account with
  | due goesOn =>
    have begins := (goesOn []).1
    rw [List.append_nil] at begins
    exact ⟨_, begins.symm⟩
  | underway goesOn =>
    obtain ⟨later, first⟩ := e.client.http.exists_sent_proceed .replaying _
      (some e.client.callTimeout) _ _ _ _
    have begins := (goesOn []).1
    rw [List.append_nil, Errand.goOnAfter, first, List.append_cons] at begins
    exact ⟨later, begins.symm⟩
  | ended same =>
    have all := (same []).1
    rw [List.append_nil] at all
    exact ⟨[], by rw [List.append_nil, all]⟩
  | abandoned held isPart => exact isPart

/-- A call that has found no token has ended. -/
lemma exists_held (account : Account e session tape sent p)
    (unfinished : ∀ result, p ≠ .ended result) : ∃ token, session.accessToken = .ok token := by
  have isPrefix := account.isPrefix
  cases account with
  | due goesOn =>
    obtain ⟨later, first⟩ := e.client.http.exists_sent_proceed .replaying _
      (some e.client.callTimeout) _ _ _ _
    have all := (goesOn []).1
    rw [Errand.goOn_eq, Errand.goOnAfter, first] at all
    obtain ⟨token, held, -⟩ :=
      Errand.drafted_of_sent (all ▸ List.mem_append_right _ List.mem_cons_self)
    exact ⟨token, held⟩
  | underway =>
    obtain ⟨token, held, -⟩ :=
      Errand.drafted_of_sent (isPrefix.subset (List.mem_append_right _ List.mem_cons_self))
    exact ⟨token, held⟩
  | ended => exact absurd rfl (unfinished _)
  | abandoned held => exact ⟨_, held⟩

/-- A call that has looked for a token has not sent anything yet. -/
lemma of_look (e : Errand) (session : Session) : Account e session [] [] (e.look session) := by
  have looked (future : Tape) : e.Looked .replaying session future (e.look session) :=
    e.looked_look ..
  generalize e.look session = p at looked ⊢
  cases p with
  | ended result =>
    refine .ended fun future => ?_
    cases looked future with
    | ended _ nothing =>
      rw [List.nil_append, nothing]
      exact ⟨rfl, rfl⟩
  | due turn =>
    refine .due fun future => ?_
    cases looked future with
    | due _ goesOn =>
      rw [List.nil_append, List.nil_append, goesOn]
      exact ⟨rfl, rfl⟩
  | begun => cases looked []
  | underway => cases looked []
  | abandoned => cases looked []

lemma send {σ : Type} (account : Account e session tape sent (.due turn)) (net : Network σ)
    (state : σ) :
    let tried := e.client.http.attempt net state turn.request
    Account e session (tape ++ Http.Client.taped net state turn.request)
      (sent ++ [(turn.now, turn.request)]) (.underway turn tried.result tried.time) := by
  cases account with
  | due goesOn =>
    refine .underway fun future => ?_
    have same := goesOn (Http.Client.taped net state turn.request ++ future)
    rw [Errand.goOn_eq, Http.Client.attempt_replaying, ← List.append_assoc] at same
    exact same

lemma hear (account : Account e session tape sent (.underway turn result time)) :
    Account e session tape sent (e.hear turn result time) := by
  have heard (future : Tape) :
      e.Heard .replaying turn ⟨future, result, time⟩ (e.hear turn result time) := e.heard_hear ..
  cases account with
  | underway goesOn =>
    generalize e.hear turn result time = p at heard ⊢
    cases p with
    | ended final =>
      refine .ended fun future => ?_
      have same := goesOn future
      cases heard future with
      | ended notes brought time last =>
        rw [last] at same
        exact same
    | due next =>
      refine .due fun future => ?_
      have same := goesOn future
      cases heard future with
      | due note fewer again =>
        rw [again] at same
        rw [List.append_assoc]
        exact same
    | begun => cases heard []
    | underway => cases heard []
    | abandoned => cases heard []

end Account

/-! ### Stories -/

/-- What is on record of a call and how far it has come: it has not looked for a token and has sent
nothing, or it has looked once. -/
inductive Story (e : Errand) :
    List (Except Error String) → List (Duration × Request) → Progress → Prop
  | unlooked {p : Progress} (idle : p = .begun ∨ p = .abandoned) : Story e [] [] p
  | looked {session : Session} {tape : Tape} {sent : List (Duration × Request)} {p : Progress}
      (account : Account e session tape sent p) : Story e [session.accessToken] sent p

namespace Story

variable {e : Errand} {found : List (Except Error String)} {sent : List (Duration × Request)}
  {turn : Turn} {p : Progress}

lemma look (story : Story e found sent .begun) (session : Session) :
    Story e ([session.accessToken] ++ found) (sent ++ []) (e.look session) := by
  cases story with
  | unlooked => exact .looked (.of_look e session)
  | looked account => cases account

lemma send {σ : Type} (story : Story e found sent (.due turn)) (net : Network σ) (state : σ) :
    let tried := e.client.http.attempt net state turn.request
    Story e ([] ++ found) (sent ++ [(turn.now, turn.request)])
      (.underway turn tried.result tried.time) := by
  cases story with
  | unlooked idle => simp at idle
  | looked account => exact .looked (account.send net state)

lemma hear {result : Except Failure Response} {time : Duration}
    (story : Story e found sent (.underway turn result time)) :
    Story e ([] ++ found) (sent ++ []) (e.hear turn result time) := by
  rw [List.append_nil]
  cases story with
  | unlooked idle => simp at idle
  | looked account => exact .looked account.hear

lemma giveUp (story : Story e found sent p) (unfinished : ∀ result, p ≠ .ended result) :
    Story e ([] ++ found) (sent ++ []) .abandoned := by
  rw [List.append_nil]
  cases story with
  | unlooked => exact .unlooked (.inr rfl)
  | looked account =>
    obtain ⟨token, held⟩ := account.exists_held unfinished
    exact .looked (.abandoned held account.isPrefix)

/-- A call that is to send its request has it drafted with the token that it has found. -/
lemma exists_drafted (story : Story e found sent (.due turn)) :
    ∃ token, found = [.ok token] ∧ (e.draft token).request? = some turn.request := by
  cases story with
  | unlooked idle => simp at idle
  | looked account =>
    have isPart := (account.send .unreachable ()).isPrefix
    obtain ⟨token, held, drafted⟩ :=
      Errand.drafted_of_sent (isPart.subset (List.mem_append_right _ List.mem_cons_self))
    exact ⟨token, congrArg ([·]) held, drafted⟩

/-- A call that has found no token has ended, and has sent nothing. -/
lemma of_denied (story : Story e found sent p) {refusal : Error}
    (denied : .error refusal ∈ found) : sent = [] ∧ p = .ended (.error refusal) := by
  cases story with
  | unlooked => cases denied
  | @looked session _ _ _ account =>
    have held : session.accessToken = .error refusal := (List.mem_singleton.mp denied).symm
    cases p with
    | ended result =>
      cases account with
      | ended same =>
        obtain ⟨sent, result⟩ := same []
        simp only [Errand.call, Client.call, held] at sent result
        exact ⟨sent.symm, congrArg Progress.ended result.symm⟩
    | begun => cases account
    | due | underway | abandoned =>
      obtain ⟨token, other⟩ := account.exists_held (fun _ same => by cases same)
      rw [held] at other
      cases other

/-- A call that has looked once and ended has come to what it would have come to all at once. -/
lemma of_ended {result : Except Error Response} (story : Story e found sent (.ended result)) :
    ∃ (session : Session) (tape : Tape), found = [session.accessToken] ∧
      let reached := e.call .replaying session tape
      reached.sent = sent ∧ reached.result = result := by
  cases story with
  | unlooked idle => simp at idle
  | @looked session tape _ _ account =>
    cases account with
    | ended same =>
      have all := same []
      rw [List.append_nil] at all
      exact ⟨session, tape, rfl, all⟩

lemma length_looks_le (story : Story e found sent p) : found.length ≤ 1 := by
  cases story with
  | unlooked => exact Nat.zero_le 1
  | looked => exact Nat.le_refl 1

end Story

/-- What is on record of the call of a number in a traffic, if it was begun at all. -/
def Recorded {σ : Type} (t : Traffic σ) (id : Nat) (marks : List Incident) : Prop :=
  match t.calls[id]? with
  | none => looks id marks = [] ∧ requests id marks = []
  | some o => Story o.errand (looks id marks) (requests id marks) o.progress

namespace Traffic

variable {σ : Type} {net : Network σ} {t t' : Traffic σ} {marks : List Incident} {m : Incident}

lemma recorded_of_some {id : Nat} {o : Ongoing} (isThere : t.calls[id]? = some o) :
    Recorded t id marks ↔ Story o.errand (looks id marks) (requests id marks) o.progress := by
  rw [Recorded, isThere]

/-- What happens elsewhere is not on record of a call. -/
lemma recorded_of_same {id : Nat} (recorded : Recorded t id marks)
    (same : t'.calls[id]? = t.calls[id]?) (found : m.found? id = none) (sent : m.sent? id = none) :
    Recorded t' id (m :: marks) := by
  simp only [Recorded, same, looks_cons, requests_cons, found, sent, Option.toList_none,
    List.nil_append, List.append_nil]
  exact recorded

/-- What a call does is put on record of this call, and of no other. -/
lemma recorded_of_put {call id : Nat} {o : Ongoing} {p : Progress}
    (isThere : t.calls[call]? = some o) (calls : t'.calls = (t.put call p).calls)
    (own : Story o.errand (looks call marks) (requests call marks) o.progress →
      Story o.errand (looks call (m :: marks)) (requests call (m :: marks)) p)
    (others : call ≠ id → m.found? id = none ∧ m.sent? id = none)
    (recorded : Recorded t id marks) : Recorded t' id (m :: marks) := by
  by_cases same : call = id
  · subst same
    have isThere' : t'.calls[call]? = some ⟨o.errand, p⟩ := by
      rw [calls, getElem?_put_self isThere]
    exact (recorded_of_some isThere').mpr (own ((recorded_of_some isThere).mp recorded))
  · obtain ⟨found, sent⟩ := others same
    have unchanged : t'.calls[id]? = t.calls[id]? := by rw [calls, getElem?_put, if_neg same]
    exact recorded_of_same recorded unchanged found sent

/-- Every step is put on record. -/
lemma Step.recorded (step : Step net t m t') {id : Nat} (recorded : Recorded t id marks) :
    Recorded t' id (m :: marks) := by
  cases step with
  | login | logout | ask | elsewhere => exact recorded_of_same recorded rfl rfl rfl
  | start e =>
    by_cases isNew : id = t.calls.length
    · subst isNew
      have begun : (t.calls ++ [⟨e, .begun⟩])[t.calls.length]? = some ⟨e, .begun⟩ := by simp
      rw [Recorded, List.getElem?_eq_none (Nat.le_refl _)] at recorded
      rw [recorded_of_some begun, looks_cons, requests_cons, recorded.1, recorded.2]
      exact .unlooked (.inl rfl)
    · refine recorded_of_same recorded ?_ rfl rfl
      rcases Nat.lt_or_gt_of_ne isNew with inside | outside
      · exact List.getElem?_append_left inside
      · have beyond : (t.calls ++ [Ongoing.mk e .begun]).length ≤ id := by
          rw [List.length_append]
          exact outside
        rw [List.getElem?_eq_none beyond, List.getElem?_eq_none outside.le]
  | @look call e isThere =>
    refine recorded_of_put isThere rfl (fun story => ?_) (fun other => ⟨if_neg other, rfl⟩) recorded
    rw [looks_cons, requests_cons, Incident.found?, if_pos rfl]
    exact story.look _
  | @send call e turn isThere =>
    refine recorded_of_put isThere rfl (fun story => ?_) (fun other => ⟨rfl, if_neg other⟩) recorded
    rw [looks_cons, requests_cons, Incident.sent?, if_pos rfl]
    exact story.send net t.network
  | @hear call e turn result time isThere =>
    refine recorded_of_put isThere rfl (fun story => ?_) (fun _ => ⟨rfl, rfl⟩) recorded
    rw [looks_cons, requests_cons]
    exact story.hear
  | @giveUp call o isThere unfinished =>
    refine recorded_of_put isThere rfl (fun story => ?_) (fun _ => ⟨rfl, rfl⟩) recorded
    rw [looks_cons, requests_cons]
    exact story.giveUp unfinished

/-- Whatever happens in a traffic is on record of the calls. -/
lemma Run.recorded (run : Run net marks t) (id : Nat) : Recorded t id marks := by
  obtain ⟨network, path⟩ := run
  induction path with
  | refl => exact ⟨rfl, rfl⟩
  | tail _ step ih => exact step.recorded ih

end Traffic

end Api

end MetricWatch
