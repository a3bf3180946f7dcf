import MetricWatch.Http.Redirect

/-!
# Who follows a redirection

A request that is redirected is made anew as often as it takes. The ones that go to the host and
port of the first have its authorization, until one goes elsewhere, which has none. The main
statement is `Hosts.entrusted_trail`.
-/

namespace MetricWatch.Http

/-! ### One request after the other -/

/-- Requests that follow others, latest first: each is the one before made anew. -/
inductive Forwarded (f : Forwarder) : List Request → List Request → Prop
  | last (earlier : List Request) (r : Request) : Forwarded f earlier [r]
  | next {earlier rest : List Request} {r : Request} {status : Status} {target : Url}
      (more : Forwarded f (r :: earlier) (f.next r earlier status target :: rest)) :
      Forwarded f earlier (r :: f.next r earlier status target :: rest)

lemma Hosts.forwarded_follow {σ : Type} (hosts : Hosts σ) (f : Forwarder) (left : Nat)
    (earlier : List Request) (state : σ) (r : Request) :
    ∃ rest, (hosts.follow f left earlier state r).sent = r :: rest ∧
      Forwarded f earlier (r :: rest) := by
  -- The induction is on how many redirections may still be followed.
  induction left generalizing earlier state r with
  | zero => exact ⟨[], rfl, .last earlier r⟩
  | succ left ih =>
    rw [follow]
    split
    next => exact ⟨[], rfl, .last earlier r⟩
    next status target time _ =>
      split
      next =>
        obtain ⟨rest, sent, forwarded⟩ :=
          ih (r :: earlier) (hosts state r).state (f.next r earlier status target)
        exact ⟨_, congrArg (r :: ·) sent, .next forwarded⟩
      next => exact ⟨[], rfl, .last earlier r⟩

section

variable {f : Forwarder} {earlier sent front back : List Request} {r q r' : Request}
  {authorization : Headers} {endpoint : Option Url.Host × Option Nat}

/-- A request that goes where all before it went is authorized as they were. -/
lemma Forwarded.stays (forwarded : Forwarded f earlier sent)
    (same : ∀ q ∈ earlier, q.url.endpoint = endpoint ∧ q.headers.authorization = authorization)
    (first : ∀ q ∈ sent.head?, q.url.endpoint = endpoint →
      q.headers.authorization = authorization)
    (isPart : sent = front ++ r' :: back)
    (stay : ∀ q ∈ front ++ [r'], q.url.endpoint = endpoint) :
    r'.headers.authorization = authorization := by
  have atOnce {r : Request} {rest : List Request} (isFirst : r :: rest = r' :: back)
      (first : r.url.endpoint = endpoint → r.headers.authorization = authorization)
      (stay : r'.url.endpoint = endpoint) : r'.headers.authorization = authorization := by
    obtain ⟨rfl, -⟩ := List.cons.inj isFirst
    exact first stay
  induction forwarded generalizing front with
  | last earlier r =>
    cases front with
    | nil => exact atOnce isPart (first r rfl) (stay r' List.mem_cons_self)
    | cons _ front => cases front <;> cases isPart
  | @next earlier rest r status target more ih =>
    cases front with
    | nil => exact atOnce isPart (first r rfl) (stay r' List.mem_cons_self)
    | cons _ front =>
      obtain ⟨rfl, isRest⟩ := List.cons.inj isPart
      obtain ⟨here, stay⟩ := List.forall_mem_cons.mp stay
      have same' := List.forall_mem_cons.mpr ⟨⟨here, first r rfl here⟩, same⟩
      refine ih same' (fun q isNext there => ?_) isRest stay
      obtain rfl := Option.some.inj isNext
      rw [f.url_next] at there
      exact f.stays status fun q mem => there ▸ same' q mem

/-- A request that leaves where the one before it was is not authorized. -/
lemma Forwarded.leaves (forwarded : Forwarded f earlier sent)
    (isPart : sent = front ++ q :: r' :: back) (left : q.url.endpoint ≠ r'.url.endpoint) :
    r'.headers.authorization = [] := by
  induction forwarded generalizing front with
  | last earlier r =>
    cases front with
    | nil => cases isPart
    | cons _ front => cases front <;> cases isPart
  | @next earlier rest r status target more ih =>
    cases front with
    | nil =>
      obtain ⟨rfl, rfl, rfl⟩ : r = q ∧ f.next r earlier status target = r' ∧ rest = back := by
        simpa using isPart
      rw [f.url_next] at left
      exact f.leaves earlier status left
    | cons _ front => exact ih (List.cons.inj isPart).2

end

/-! ### The main statement -/

/-- Which of the requests that were sent for one are authorized. -/
structure Entrusted (r : Request) (sent : List Request) : Prop where
  /-- The request itself was sent first. -/
  isFirst : sent.head? = some r
  /-- As long as they all go to its host and port, they are authorized as it is. -/
  stays : ∀ {front r' back}, sent = front ++ r' :: back →
    (∀ q ∈ front ++ [r'], q.url.endpoint = r.url.endpoint) →
      r'.headers.authorization = r.headers.authorization
  /-- One that leaves the host or the port of the one before it is not. -/
  leaves : ∀ {front q r' back}, sent = front ++ q :: r' :: back →
    q.url.endpoint ≠ r'.url.endpoint → r'.headers.authorization = []

/-- Redirections to the same host and port are followed with the same authorization, and others
without any. -/
theorem Hosts.entrusted_trail {σ : Type} (hosts : Hosts σ) (f : Forwarder) (state : σ)
    (r : Request) : Entrusted r (hosts.trail f state r).sent := by
  obtain ⟨rest, sent, forwarded⟩ := hosts.forwarded_follow f mostRedirections [] state r
  rw [trail, sent]
  refine ⟨rfl, fun isPart stay => ?_, fun isPart left => forwarded.leaves isPart left⟩
  refine forwarded.stays (fun _ none => absurd none List.not_mem_nil) (fun q isFirst _ => ?_) isPart
    stay
  obtain rfl := Option.some.inj isFirst
  rfl

end MetricWatch.Http
