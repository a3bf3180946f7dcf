import MetricWatch.Api.Client
import MetricWatch.Proofs.Http.Retries
import MetricWatch.Proofs.Url.Below
import MetricWatch.Proofs.Url.Dots

/-!
# Where names are asked for

The address of a names request ends in the encoded id of a node and the encoded namespace. Encoding
leaves no character that ends a segment, but it leaves dots, and a segment of one dot or two is
resolved when the address is read. So a request goes to the route of its node and namespace just
when neither of the two is such a segment, and then no other pair and no other call goes there. The
main statement is `Client.names_addressed`, and `Client.names_redirected` shows a node that leads
elsewhere.
-/

namespace MetricWatch

namespace Api

open Http (Network)
open Text.Percent (encode encode_injective isPlain isPlain_of_mem_encode)

namespace Client

section

variable {σ : Type} (c : Client) (net : Network σ) (session : Session) (state : σ)
  (method path : String) (body : Option Json.Value)

/-- A call requests the URL of its address, without who asks. -/
lemma url_of_sent_call : ∀ sent ∈ (c.call net session state method path body).sent,
    (Url.parse? (c.baseUrl ++ path)).map Url.anonymous = some sent.2.url := by
  intro sent isSent
  cases held : session.accessToken with
  | error e => simp [call, held] at isSent
  | ok token =>
    have address (headers : Http.Headers) :
        ({ c.draft token method path body with headers := headers } : Http.Draft).address
          = c.baseUrl ++ path := by
      cases body <;> rfl
    simp only [call, held] at isSent
    rw [← address]
    exact (Http.Client.request_of_drafted (Http.Client.drafted_of_sent isSent)).2.1

/-- A session that holds a token sends something, if the address is a host's. -/
lemma sent_call_ne_nil {token : String} (held : session.accessToken = .ok token) {url : Url}
    (address : Url.parse? (c.baseUrl ++ path) = some url) (hasHost : url.hasHost = true) :
    (c.call net session state method path body).sent ≠ [] := by
  have made : ∃ r, ({ c.draft token method path body with
      headers := (c.draft token method path body).headers.orElse c.http.headers } :
        Http.Draft).request? = some r := by
    cases body <;>
      simp [draft, Http.Draft.start, Http.Draft.request?, Http.Draft.url?, address,
        Option.filter_some, hasHost]
  obtain ⟨r, made⟩ := made
  obtain ⟨left, attempts⟩ : ∃ left, max 1 c.http.maxAttempts = left + 1 :=
    ⟨max 1 c.http.maxAttempts - 1, by omega⟩
  obtain ⟨later, first⟩ := c.http.exists_sent_proceed net r (some c.callTimeout) 1 left .zero
    (c.http.attempt net state r)
  simp only [call, held, Http.Client.send, made, attempts, Http.Client.attemptFrom_succ, first]
  exact List.cons_ne_nil _ _

end

/-! ### Routes -/

/-- The base of a client: the URL of a host with neither query nor fragment, and the segments of its
path. -/
structure Base (c : Client) (root : Url) (front : List String) : Prop where
  isRoot : Url.parse? (c.baseUrl ++ "/") = some root
  hasHost : root.hasHost = true
  noQuery : root.query = none
  noFragment : root.fragment = none
  isPath : root.path = .segments (front ++ [""])

/-- The URL at which a route ends that begins at a base, without who asks. -/
def below (root : Url) (front route : List String) : Url :=
  { root.anonymous with path := .segments (front ++ route) }

/-- The segments of the route to the names of a node in a namespace. -/
def namesRoute (node namesNamespace : String) : List String :=
  ["cluster", encode node, "metrics", "namespace", encode namesNamespace]

/-- The segments of the route to the nodes. -/
def nodesRoute : List String := ["system", "cluster", "nodes"]

/-- The segments of the route to metrics. -/
def metricsRoute : List String := ["cluster", "metrics", "multiple"]

lemma isOfPath_of_isPlain {ch : Char} (plain : isPlain ch = true) : Url.isOfPath ch = true := by
  obtain ⟨low, -⟩ := Text.Percent.toNat_of_isPlain plain
  have marks := Text.Percent.ne_of_isPlain plain
  simp at marks
  simp [Url.isOfPath, Url.isOuter, marks]
  omega

/-- The text of a route is a slash and the segments with slashes between them. -/
lemma tail_of_route {route : List String} (nonempty : route ≠ [])
    (plain : ∀ s ∈ route, ∀ ch ∈ s.toList, isPlain ch = true) :
    ∃ tail : String, (Url.Path.segments route).text = "/" ++ tail ∧
      Text.parts (· = '/') tail.toList = route.map String.toList ∧
      ∀ ch ∈ tail.toList, Url.isOfPath ch = true := by
  induction route with
  | nil => exact absurd rfl nonempty
  | cons first rest ih =>
    have plainFirst := plain first List.mem_cons_self
    have noSlash (ch : Char) (mem : ch ∈ first.toList) : decide (ch = '/') = false :=
      decide_eq_false (Text.Percent.ne_of_isPlain (plainFirst ch mem) '/' (by decide))
    by_cases last : rest = []
    · subst last
      refine ⟨first, by simp [Url.Path.text], Text.parts_of_absent noSlash, fun ch mem => ?_⟩
      exact isOfPath_of_isPlain (plainFirst ch mem)
    · obtain ⟨tail, isText, isParts, ofPath⟩ := ih last fun s mem => plain s (List.mem_cons_of_mem _ mem)
      have chars : (first ++ "/" ++ tail).toList = first.toList ++ '/' :: tail.toList := by simp
      refine ⟨first ++ "/" ++ tail, ?_, ?_, fun ch mem => ?_⟩
      · simp only [Url.Path.text, List.map_cons, String.join_cons] at isText ⊢
        rw [isText]
        simp [String.append_assoc]
      · rw [chars, Text.parts_append rfl, Text.parts_of_absent noSlash, isParts]
        rfl
      · rw [chars, List.mem_append, List.mem_cons] at mem
        rcases mem with inFirst | rfl | inTail
        · exact isOfPath_of_isPlain (plainFirst ch inFirst)
        · decide
        · exact ofPath ch inTail

/-- The URL of a route below a base is walked to. -/
lemma Base.address {c : Client} {root : Url} {front : List String} (base : c.Base root front)
    {route : List String} (nonempty : route ≠ [])
    (plain : ∀ s ∈ route, ∀ ch ∈ s.toList, isPlain ch = true) :
    Url.parse? (c.baseUrl ++ (Url.Path.segments route).text) = some { root with
      path := .segments (Url.walk front.reverse (route.map String.toList)).reverse } := by
  obtain ⟨tail, isText, isParts, ofPath⟩ := tail_of_route nonempty plain
  obtain ⟨done, isPath, address⟩ :=
    Url.parse?_below base.isRoot base.hasHost base.noQuery base.noFragment
  obtain rfl : done = front.reverse := by
    have same := Url.Path.segments.inj (isPath.symm.trans base.isPath)
    rw [← List.append_cancel_right same, List.reverse_reverse]
  rw [isText, ← String.append_assoc, address tail ofPath, isParts]

lemma plain_of_all {route : List String}
    (plain : (route.all fun s => s.toList.all isPlain) = true) :
    ∀ s ∈ route, ∀ ch ∈ s.toList, isPlain ch = true := by
  simpa only [List.all_eq_true] using plain

lemma plain_namesRoute (node namesNamespace : String) :
    ∀ s ∈ namesRoute node namesNamespace, ∀ ch ∈ s.toList, isPlain ch = true := by
  have words : ∀ s ∈ ["cluster", "metrics", "namespace"], ∀ ch ∈ s.toList, isPlain ch = true :=
    plain_of_all (by decide)
  simp only [namesRoute, List.forall_mem_cons, List.not_mem_nil, false_imp_iff, implies_true,
    and_true] at words ⊢
  exact ⟨words.1, fun ch => isPlain_of_mem_encode, words.2.1, words.2.2,
    fun ch => isPlain_of_mem_encode⟩

lemma text_namesRoute (node namesNamespace : String) :
    (Url.Path.segments (namesRoute node namesNamespace)).text
      = encodedNamesPath node namesNamespace := by
  apply String.toList_inj.mp
  simp [Url.Path.text, namesRoute, encodedNamesPath, namesPath, String.join_cons]

/-- A text that is resolved when it stands as a segment. -/
def IsDots (s : String) : Prop := s = "." ∨ s = ".."

lemma dots_namesRoute (node namesNamespace : String) :
    (∀ s ∈ namesRoute node namesNamespace, ¬ Url.IsDots s.toList)
      ↔ ¬ IsDots node ∧ ¬ IsDots namesNamespace := by
  have words : ∀ s ∈ ["cluster", "metrics", "namespace"], ¬ Url.IsDots s.toList := by decide
  simp only [namesRoute, List.forall_mem_cons, Url.isDots_encode] at words ⊢
  exact ⟨fun ⟨_, node_, _, _, last, _⟩ => ⟨node_, last⟩,
    fun ⟨node_, last⟩ => ⟨words.1, node_, words.2.1, words.2.2.1, last, words.2.2.2⟩⟩

/-- Different pairs of a node and a namespace have different routes. -/
lemma namesRoute_injective {node node' namesNamespace namesNamespace' : String}
    (same : namesRoute node namesNamespace = namesRoute node' namesNamespace') :
    node = node' ∧ namesNamespace = namesNamespace' := by
  simp only [namesRoute, List.cons.injEq, and_true, true_and] at same
  exact ⟨encode_injective same.1, encode_injective same.2⟩

/-! ### Requests for names -/

lemma below_injective {root : Url} {front route route' : List String}
    (same : below root front route = below root front route') : route = route' :=
  List.append_cancel_left (Url.Path.segments.inj (congrArg Url.path same))

/-- Asking for the names of a node in a namespace, a client requests a URL. -/
def RequestsNames (c : Client) (node namesNamespace : String) (url : Url) : Prop :=
  ∃ (σ : Type) (net : Network σ) (session : Session) (state : σ),
    ∃ sent ∈ (c.names net session state node namesNamespace).sent, sent.2.url = url

/-- Asking for nodes or for metrics, a client requests a URL. -/
def RequestsOthers (c : Client) (url : Url) : Prop :=
  ∃ (σ : Type) (net : Network σ) (session : Session) (state : σ) (names : List String),
    ∃ sent ∈ (c.nodes net session state).sent ++ (c.metrics net session state names).sent,
      sent.2.url = url

namespace Base

variable {c : Client} {root url : Url} {front : List String} (base : c.Base root front)

include base

/-- The URL of a route whose segments all stay. -/
lemma address_below (route : List String) (nonempty : route ≠ [])
    (plain : ∀ s ∈ route, ∀ ch ∈ s.toList, isPlain ch = true)
    (stay : ∀ s ∈ route, ¬ Url.IsDots s.toList) :
    (Url.parse? (c.baseUrl ++ (Url.Path.segments route).text)).map Url.anonymous
      = some (below root front route) := by
  rw [base.address nonempty plain, (Url.walk_eq_iff plain _).mpr stay]
  simp [below, Url.anonymous_path]

lemma address_names (node namesNamespace : String) :
    Url.parse? (c.baseUrl ++ encodedNamesPath node namesNamespace) = some { root with
      path := .segments (Url.walk front.reverse
        ((namesRoute node namesNamespace).map String.toList)).reverse } := by
  rw [← text_namesRoute]
  exact base.address (List.cons_ne_nil _ _) (plain_namesRoute node namesNamespace)

lemma requests_names (node namesNamespace : String) :
    ∃ url, c.RequestsNames node namesNamespace url := by
  let session : Session := ⟨some "token"⟩
  have some_ : (c.names .unreachable session () node namesNamespace).sent ≠ [] :=
    sent_call_ne_nil c .unreachable session () _ _ _ rfl (base.address_names node namesNamespace)
      base.hasHost
  obtain ⟨sent, isSent⟩ := List.exists_mem_of_ne_nil _ some_
  exact ⟨_, Unit, .unreachable, session, (), sent, isSent, rfl⟩

variable {node namesNamespace : String}

lemma url_of_names (requests : c.RequestsNames node namesNamespace url) :
    url = { root.anonymous with path := .segments (Url.walk front.reverse
      ((namesRoute node namesNamespace).map String.toList)).reverse } := by
  obtain ⟨σ, net, session, state, sent, isSent, rfl⟩ := requests
  have address := url_of_sent_call c net session state _ _ _ sent isSent
  rw [base.address_names node namesNamespace, Option.map_some, Url.anonymous_path] at address
  exact (Option.some.inj address).symm

lemma url_of_names_iff (requests : c.RequestsNames node namesNamespace url) :
    url = below root front (namesRoute node namesNamespace)
      ↔ ¬ IsDots node ∧ ¬ IsDots namesNamespace := by
  rw [base.url_of_names requests, ← dots_namesRoute,
    ← Url.walk_eq_iff (plain_namesRoute _ _) front.reverse, below]
  constructor
  · intro same
    have path := Url.Path.segments.inj (congrArg Url.path same)
    rw [← List.reverse_append, ← path, List.reverse_reverse]
  · intro walked
    rw [walked, List.reverse_append, List.reverse_reverse, List.reverse_reverse]

lemma url_of_others (requests : c.RequestsOthers url) :
    url = below root front nodesRoute ∨ url = below root front metricsRoute := by
  obtain ⟨σ, net, session, state, names, sent, isSent, rfl⟩ := requests
  rcases List.mem_append.mp isSent with ofNodes | ofMetrics
  · have address := base.address_below nodesRoute (List.cons_ne_nil _ _)
      (plain_of_all (by decide)) (by decide)
    exact .inl (Option.some.inj
      ((url_of_sent_call c net session state _ _ _ sent ofNodes).symm.trans address))
  · have address := base.address_below metricsRoute (List.cons_ne_nil _ _)
      (plain_of_all (by decide)) (by decide)
    exact .inr (Option.some.inj
      ((url_of_sent_call c net session state _ _ _ sent ofMetrics).symm.trans address))

end Base

/-- What requests for names come to at a base. -/
structure Addresses (c : Client) (root : Url) (front : List String) : Prop where
  /-- Whoever holds a token sends something. -/
  sends {σ : Type} (net : Network σ) (session : Session) (state : σ)
    (node namesNamespace : String) {token : String} (held : session.accessToken = .ok token) :
    (c.names net session state node namesNamespace).sent ≠ []
  /-- Nothing but the path depends on what is asked. -/
  stays {node namesNamespace : String} {url : Url}
    (requests : c.RequestsNames node namesNamespace url) :
    url = { root.anonymous with path := url.path }
  /-- A request goes along the route just when neither part of it is resolved. -/
  along {node namesNamespace : String} {url : Url}
    (requests : c.RequestsNames node namesNamespace url) :
    url = below root front (namesRoute node namesNamespace)
      ↔ ¬ IsDots node ∧ ¬ IsDots namesNamespace
  /-- Different pairs are asked for at different places. -/
  distinct {node namesNamespace node' namesNamespace' : String} {url : Url}
    (stay : ¬ IsDots node ∧ ¬ IsDots namesNamespace)
    (stay' : ¬ IsDots node' ∧ ¬ IsDots namesNamespace')
    (requests : c.RequestsNames node namesNamespace url)
    (requests' : c.RequestsNames node' namesNamespace' url) :
    node = node' ∧ namesNamespace = namesNamespace'
  /-- Nodes and metrics are asked for at other places. -/
  apart {node namesNamespace : String} {url : Url}
    (stay : ¬ IsDots node ∧ ¬ IsDots namesNamespace)
    (requests : c.RequestsNames node namesNamespace url) : ¬ c.RequestsOthers url

/-- Requests for names go along the route of their node and namespace, each pair to a place of its
own, as long as neither is `.` or `..`; a request with one of those goes elsewhere. -/
theorem names_addressed {c : Client} {root : Url} {front : List String}
    (base : c.Base root front) : c.Addresses root front where
  sends net session state node namesNamespace token held :=
    sent_call_ne_nil c net session state _ _ _ held (base.address_names node namesNamespace)
      base.hasHost
  stays requests := by rw [base.url_of_names requests]
  along := base.url_of_names_iff
  distinct stay stay' requests requests' := by
    have url := (base.url_of_names_iff requests).mpr stay
    have url' := (base.url_of_names_iff requests').mpr stay'
    exact namesRoute_injective (below_injective (url.symm.trans url'))
  apart stay requests others := by
    have url := (base.url_of_names_iff requests).mpr stay
    rcases base.url_of_others others with url' | url'
    · cases congrArg List.length (below_injective (url.symm.trans url'))
    · cases congrArg List.length (below_injective (url.symm.trans url'))

/-! ### Two bases -/

/-- A client at a base. -/
def clientAt (base : String) : Client :=
  ⟨⟨.ofSeconds 10, 3, .ofMillis 200, headers⟩, base, .ofSeconds 31⟩

/-- The URL of the directory `api` on a host. -/
def apiRoot (scheme : String) : Url :=
  ⟨scheme, "", "", some (.name "h"), none, .segments ["api", ""], none, none⟩

lemma base_api {base scheme : String}
    (isRoot : Url.parse? (base ++ "/") = some (apiRoot scheme)) :
    (clientAt base).Base (apiRoot scheme) ["api"] :=
  ⟨isRoot, rfl, rfl, rfl, rfl⟩

/-- The slash in the id of a node is encoded. -/
theorem names_addressed_with_slash :
    let c := clientAt "http://h/api"
    c.Base (apiRoot "http") ["api"] ∧ c.Addresses (apiRoot "http") ["api"] ∧
      ∀ url, c.RequestsNames "n/1" "org" url →
        url.text = "http://h/api/cluster/n%2F1/metrics/namespace/org" := by
  intro c
  have base : c.Base (apiRoot "http") ["api"] := base_api (by decide +kernel)
  have addresses := names_addressed base
  refine ⟨base, addresses, fun url requests => ?_⟩
  have stay : ¬ IsDots "n/1" ∧ ¬ IsDots "org" := by simp [IsDots]
  rw [(addresses.along requests).mpr stay]
  decide +kernel

/-- The id `..` leads out of the directory of the cluster, and an empty namespace and the namespace
`.` are asked for at one place. -/
theorem names_redirected :
    let c := clientAt "ftp://h/api"
    ((c.names .unreachable ⟨some "abc"⟩ () ".." "org").sent.map fun s => s.2.url.text)
        = ["ftp://h/api/metrics/namespace/org"] ∧
      (∃ url, c.RequestsNames "n" "." url ∧ c.RequestsNames "n" "" url) ∧
      ¬ ∀ (c : Client) (root : Url) (front : List String), c.Base root front →
        ∀ node namesNamespace url, c.RequestsNames node namesNamespace url →
          url = below root front (namesRoute node namesNamespace) := by
  intro c
  have base : c.Base (apiRoot "ftp") ["api"] := base_api (by decide +kernel)
  refine ⟨by decide +kernel, ?_, fun always => ?_⟩
  · obtain ⟨url, requests⟩ := base.requests_names "n" "."
    obtain ⟨url', requests'⟩ := base.requests_names "n" ""
    have same : url = url' := by
      rw [base.url_of_names requests, base.url_of_names requests']
      decide +kernel
    exact ⟨url, requests, same ▸ requests'⟩
  · obtain ⟨url, requests⟩ := base.requests_names ".." "org"
    exact ((base.url_of_names_iff requests).mp (always c _ _ base _ _ url requests)).1 (.inr rfl)

end Client

end Api

end MetricWatch
