import MetricWatch.Proofs.Cluster.Sections
import MetricWatch.Proofs.Http.ListRounds

/-!
# Answers flattened whole

An answer is read whole or not at all, and the snapshot that is made of it has the nodes with a
section, each with the last metric of every full name. So whatever a store shows, metrics stand under
their full names; and a list round whose answer has one metric that cannot be read leaves what the
store shows as it was. The main statement is `ClusterAnswer.flattened_whole`.
-/

namespace MetricWatch

open Json (Value Members)
open Text.Utf8 (decode)

/-! ### Metrics by name -/

/-- Whether metrics by name are those of a list, the last one of a name counting. -/
structure IsIndex (metrics : List Metric) (byName : NodeMetrics) : Prop where
  keys : ∀ name, name ∈ Members.keys byName ↔ ∃ m ∈ metrics, m.fullName = name
  last : ∀ name, Members.get? byName name = (metrics.filter fun m => m.fullName = name).getLast?

lemma IsIndex.eq_nil {byName : NodeMetrics} (index : IsIndex [] byName) : byName = [] := by
  refine List.eq_nil_iff_forall_not_mem.mpr fun e mem => ?_
  obtain ⟨m, none, -⟩ := (index.keys e.1).mp (List.mem_map_of_mem mem)
  cases none

lemma NodeSection.isIndex_byName (s : NodeSection) : IsIndex s.metrics s.byName where
  keys name := by
    rw [byName, Members.mem_keys_ofList]
    simp
  last name := by
    rw [byName, Members.get?_ofList_last, List.filter_map, List.getLast?_map, Option.map_map]
    exact Option.map_id'

/-- Metrics stand under their full names. -/
lemma NodeSection.fullName_of_mem {s : NodeSection} {e : String × Metric} (mem : e ∈ s.byName) :
    e.1 = e.2.fullName := by
  obtain ⟨m, -, rfl⟩ := List.mem_map.mp (Members.mem_ofList mem)
  rfl

namespace ClusterAnswer

variable {answer : ClusterAnswer} {node : String}

lemma exists_of_mem_flatten {e : String × NodeMetrics} (mem : e ∈ answer.flatten) :
    ∃ s : NodeSection, e.2 = s.byName := by
  obtain ⟨⟨node, o⟩, -, isEntry⟩ := List.mem_filterMap.mp mem
  obtain ⟨s, -, rfl⟩ := Option.map_eq_some_iff.mp isEntry
  exact ⟨s, rfl⟩

/-- A snapshot has for a node what the answer has, unless this is nothing. -/
lemma get?_flatten (sorted : Members.Sorted answer) (node : String) :
    Members.get? answer.flatten node
      = (Members.get? answer node).bind fun o => o.map NodeSection.byName := by
  induction answer with
  | nil => rfl
  | cons e rest ih =>
    have ih := ih (List.pairwise_cons.mp sorted).2
    obtain ⟨first, o⟩ := e
    rw [Members.get?_cons]
    cases o with
    | some s =>
      have flat : flatten ((first, some s) :: rest) = (first, s.byName) :: flatten rest := rfl
      rw [flat, Members.get?_cons, ih]
      split <;> rfl
    | none =>
      have flat : flatten ((first, none) :: rest) = flatten rest := rfl
      rw [flat, ih]
      split
      next own => rw [← own, Members.get?_rest sorted]; rfl
      next => rfl

end ClusterAnswer

/-! ### Snapshots of answers -/

/-- Whether a snapshot is that of an answer: its nodes are those of which the answer has a section,
each with the metrics of this section by name. -/
structure Indexed (answer : ClusterAnswer) (snapshot : Snapshot) : Prop where
  nodes : ∀ node, (Members.get? snapshot node).isSome ↔
    ∃ s, Members.get? answer node = some (some s)
  entries : ∀ node byName, Members.get? snapshot node = some byName →
    ∃ s, Members.get? answer node = some (some s) ∧ IsIndex s.metrics byName

lemma ClusterAnswer.indexed {answer : ClusterAnswer} (sorted : Members.Sorted answer) :
    Indexed answer answer.flatten := by
  have isEntry (node : String) (byName : NodeMetrics) :
      Members.get? answer.flatten node = some byName
        ↔ ∃ s, Members.get? answer node = some (some s) ∧ s.byName = byName := by
    simp [get?_flatten sorted, Option.bind_eq_some_iff]
  refine ⟨fun node => ?_, fun node byName found => ?_⟩
  · simp [Option.isSome_iff_exists, isEntry]
  · obtain ⟨s, isMember, rfl⟩ := (isEntry node byName).mp found
    exact ⟨s, isMember, s.isIndex_byName⟩

/-! ### Snapshots of values -/

/-- Whether a snapshot is that of the members of an object: its nodes are the keys of those that are
not null, each with the metrics of the section that the member is read as. -/
structure Flattens (members : Members Value) (snapshot : Snapshot) : Prop where
  nodes : ∀ node, (Members.get? snapshot node).isSome ↔
    ∃ w, Members.get? members node = some w ∧ w ≠ .null
  entries : ∀ node byName, Members.get? snapshot node = some byName → ∃ w s,
    Members.get? members node = some w ∧ NodeSection.form.ofValue w = .ok s ∧
      IsIndex s.metrics byName

/-- A node whose section has no metrics is in the snapshot, with none. -/
lemma Flattens.get?_of_nil {members : Members Value} {snapshot : Snapshot}
    (flattens : Flattens members snapshot) {node : String} {w : Value}
    (isMember : Members.get? members node = some w) {total : Option UInt64}
    (read : NodeSection.form.ofValue w = .ok ⟨[], total⟩) :
    Members.get? snapshot node = some [] := by
  have notNull : w ≠ .null := by
    rintro rfl
    cases read
  obtain ⟨byName, isNode⟩ :=
    Option.isSome_iff_exists.mp ((flattens.nodes node).mpr ⟨w, isMember, notNull⟩)
  obtain ⟨w', s, isMember', read', index⟩ := flattens.entries node byName isNode
  obtain rfl := Option.some.inj (isMember.symm.trans isMember')
  obtain rfl := Except.ok.inj (read.symm.trans read')
  rw [isNode, index.eq_nil]

lemma ClusterAnswer.flattens {v : Value} {answer : ClusterAnswer} (proper : v.Proper)
    (read : form.ofValue v = .ok answer) :
    ∃ members, v = .object members ∧ Flattens members answer.flatten := by
  have indexed := indexed (sorted_of_ofValue proper read)
  obtain ⟨members, isObject, along⟩ := (ofValue_eq_ok proper).mp read
  refine ⟨members, isObject, ⟨fun node => (indexed.nodes node).trans ⟨?_, ?_⟩, ?_⟩⟩
  · rintro ⟨s, isMember⟩
    obtain ⟨w, isThere, ⟨-, ⟨⟩⟩ | ⟨s, read, ⟨⟩⟩⟩ := along.get?_left isMember
    refine ⟨w, isThere, ?_⟩
    rintro rfl
    cases read
  · rintro ⟨w, isThere, notNull⟩
    obtain ⟨o, isMember, ⟨isNull, -⟩ | ⟨s, -, rfl⟩⟩ := along.get?_right isThere
    · exact absurd isNull notNull
    · exact ⟨s, isMember⟩
  · intro node byName found
    obtain ⟨s, isMember, index⟩ := indexed.entries node byName found
    obtain ⟨w, isThere, ⟨-, ⟨⟩⟩ | ⟨s, read, ⟨⟩⟩⟩ := along.get?_left isMember
    exact ⟨w, s, isThere, read, index⟩

/-! ### Snapshots of runs -/

namespace Timeline

variable {σ : Type} {S : Source σ} {t t' : Timeline σ} {marks : List Mark}

/-- What a store shows was flattened from an answer, if it shows anything. -/
lemma Run.fullName_of_mem (run : Run S marks t) {n : String × NodeMetrics}
    (isNode : n ∈ t.store.metrics) {e : String × Metric} (isEntry : e ∈ n.2) :
    e.1 = e.2.fullName := by
  rw [Store.metrics, run.published.1] at isNode
  cases shown : (updates marks).head? with
  | none =>
    rw [shown] at isNode
    cases isNode
  | some u =>
    rw [shown] at isNode
    obtain ⟨m, -, isUpdate⟩ := List.mem_filterMap.mp (List.mem_of_mem_head? shown)
    obtain ⟨answer, _, -, flat⟩ := Mark.exists_of_update? isUpdate
    have isNode : n ∈ u.metrics := isNode
    rw [flat] at isNode
    obtain ⟨s, isSection⟩ := ClusterAnswer.exists_of_mem_flatten isNode
    rw [isSection] at isEntry
    exact s.fullName_of_mem isEntry

end Timeline

/-! ### Answers over a network -/

/-- The answer that a call for metrics got, with success or without, if it got one. -/
def Api.Client.metricsResponse? {σ : Type} (c : Client) (net : Http.Network σ) (session : Session)
    (state : σ) (names : List String) : Option Http.Response :=
  match session.accessToken with
  | .error _ => none
  | .ok token =>
    match (c.http.send net (some c.callTimeout) state
      (c.draft token "POST" metricsPath (some (MetricsRequest.form.toValue ⟨names⟩)))).result with
    | some (.ok r) => some r
    | _ => none

/-- A call for metrics comes to what its answer says, and to an error if there is none. -/
lemma Api.Client.result_metrics {σ : Type} (c : Client) (net : Http.Network σ) (session : Session)
    (state : σ) (names : List String) :
    (∃ r, c.metricsResponse? net session state names = some r ∧
      (c.metrics net session state names).result
        = (c.accept metricsPath (some (.ok r))).bind (Api.decode ClusterAnswer.form metricsPath)) ∨
    c.metricsResponse? net session state names = none ∧
      ∃ e, (c.metrics net session state names).result = .error e := by
  cases held : session.accessToken with
  | error e =>
    simp only [metricsResponse?, metrics, post, call, held]
    exact .inr ⟨trivial, e, rfl⟩
  | ok token =>
    simp only [metricsResponse?, metrics, post, call, held]
    generalize c.http.send net (some c.callTimeout) state (c.draft token "POST" metricsPath
      (some (MetricsRequest.form.toValue ⟨names⟩))) = called
    obtain ⟨_, _, _, _ | (e | r), _⟩ := called
    · exact .inr ⟨rfl, _, rfl⟩
    · exact .inr ⟨rfl, _, rfl⟩
    · exact .inl ⟨r, rfl, rfl⟩

/-- An answer that breaks off in its body is an error, also with success. -/
lemma Api.Client.exists_error_of_textless {α : Type} {form : Json.Form α} (c : Client)
    (path : String) (status : Http.Status) :
    ∃ e, (c.accept path (some (.ok ⟨status, none⟩))).bind (Api.decode form path) = .error e := by
  cases success : status.isSuccess <;> simp only [accept, success] <;> exact ⟨_, rfl⟩

namespace Timeline

open Api (Wire refusal)

/-- Whether a list round ended with an error, and the store shows and has told what it did. -/
structure Refuses (s s' : Store) (result : CallResult) (e : Error) : Prop where
  result : result = .listed (some (.error e))
  latest : s'.latest = s.latest
  told : s'.channel = s.channel

/-- What a list round that ends does to the store with what it got. -/
structure Takes (got : Option Http.Response) (s s' : Store) (result : CallResult) : Prop where
  /-- Text that came settles the round, be it an answer or not. -/
  settled : ∀ status bytes, got = some ⟨status, some bytes⟩ → Settled (status, bytes) s s' result
  /-- Without any text the snapshot stays as it is, -/
  nothing : (∀ status bytes, got ≠ some ⟨status, some bytes⟩) → ∃ e, Refuses s s' result e
  /-- and so it does if a single metric in the text cannot be read. -/
  spoilt : ∀ status bytes, got = some ⟨status, some bytes⟩ →
    (Json.Document.scan (decode bytes)).root.Spoilt →
      ∃ e, Refuses s s' result e ∧ (status.isSuccess = true → e.kind = .decode)

variable {σ : Type} {net : Http.Network σ} {c : Api.Client} {marks : List Mark}
  {t t' : Timeline (Wire σ)}

lemma Settled.refuses {status : Http.Status} {bytes : List UInt8} {s s' : Store}
    {result : CallResult} (settled : Settled (status, bytes) s s' result)
    (spoilt : (Json.Document.scan (decode bytes)).root.Spoilt) :
    ∃ e, Refuses s s' result e ∧ (status.isSuccess = true → e.kind = .decode) := by
  cases settled with
  | updated accepted => exact absurd spoilt (ClusterAnswer.not_spoilt_of_ofBytes accepted.decoded)
  | refused refused detail latest told =>
    exact ⟨⟨refusal status, detail⟩, ⟨rfl, latest, told⟩, Api.refusal_of_success⟩

lemma takes_of_error {got : Option Http.Response}
    (textless : ∀ status bytes, got ≠ some ⟨status, some bytes⟩) (e : Api.Error) (s : Store)
    (round time : Nat) :
    Takes got s (conclude s round time (.list (Api.reply (.error e))))
      (ending s round time (.list (Api.reply (.error e)))) where
  settled status bytes got := absurd got (textless status bytes)
  nothing _ := ⟨e.toError, rfl, rfl, rfl⟩
  spoilt status bytes got := absurd got (textless status bytes)

lemma takes_conclude (c : Api.Client) (net : Http.Network σ) (session : Session) (state : σ)
    (names : List String) (s : Store) (round time : Nat) :
    let reply := Api.reply (c.metrics net session state names).result
    Takes (c.metricsResponse? net session state names) s (conclude s round time (.list reply))
      (ending s round time (.list reply)) := by
  obtain ⟨⟨status, body⟩, got, result⟩ | ⟨got, e, result⟩ := c.result_metrics net session state names
  · rw [got, result]
    cases body with
    | none =>
      obtain ⟨e, isError⟩ := c.exists_error_of_textless Api.metricsPath status
      rw [isError]
      exact takes_of_error (by simp) e s round time
    | some bytes =>
      have settled := settled_conclude
        (Api.judged_accept c Api.metricsPath (status, bytes)) s round time
      refine ⟨?_, fun textless => absurd rfl (textless status bytes), ?_⟩
      · intro _ _ same
        cases same
        exact settled
      · intro _ _ same spoilt
        cases same
        exact settled.refuses spoilt
  · rw [got, result]
    exact takes_of_error (by simp) e s round time

/-- Whatever a list round over a network got is taken whole or not at all. -/
lemma Run.takes (run : Run (Api.source net c) marks t) {round time : Nat} {g : Gathered}
    {result : CallResult} (move : Move (Api.source net c) t (.ended .list round time g result) t') :
    ∃ names before asking asked, .asked .list round names g :: before <:+ marks ∧
      Run (Api.source net c) before asking ∧
      Move (Api.source net c) asking (.asked .list round names g) asked ∧
      Takes (c.metricsResponse? net asking.store.session asking.source.network names) t.store
        t'.store result := by
  obtain ⟨names, before, asking, asked, isAsked, run', asks⟩ := run.asked_of_ended move
  refine ⟨names, before, asking, asked, isAsked, run', asks, ?_⟩
  obtain ⟨rfl, f, -, -, -, -, rfl, work⟩ := move.of_ended
  have store : t'.store = conclude t.store round t.now g := congrArg Work.store work
  obtain ⟨gathered, -⟩ := ask_list (Api.source net c) asking names
  obtain ⟨isReply, -⟩ := asks.of_asked
  rw [store, isReply, gathered]
  exact takes_conclude c net _ _ names t.store round t.now

end Timeline

/-! ### The main statement -/

namespace ClusterAnswer

open Timeline (Run Move Takes)

/-- How answers are read and flattened: whole or not at all. -/
structure FlattenedWhole : Prop where
  /-- An answer is read from an object each of whose members is null or read as a section, -/
  readable : ∀ v : Value, v.Proper → ((∃ answer, form.ofValue v = .ok answer) ↔
    ∃ members, v = .object members ∧
      ∀ m ∈ members, m.2 = .null ∨ ∃ s, NodeSection.form.ofValue m.2 = .ok s)
  /-- and a section from a value in whose list of metrics each is read. -/
  sections : ∀ (v : Value) (s : NodeSection), v.Proper →
    (NodeSection.form.ofValue v = .ok s ↔ NodeSection.Told v s)
  /-- The snapshot of an answer has the nodes that are not null, and for each the last metric of
  every full name, -/
  flattens : ∀ (v : Value) (answer : ClusterAnswer), v.Proper → form.ofValue v = .ok answer →
    ∃ members, v = .object members ∧ Flattens members answer.flatten
  /-- also if it has none, -/
  empty : ∀ (members : Members Value) (answer : ClusterAnswer), (Value.object members).Proper →
    form.ofValue (.object members) = .ok answer → ∀ node w total,
      Members.get? members node = some w → NodeSection.form.ofValue w = .ok ⟨[], total⟩ →
        Members.get? answer.flatten node = some []
  /-- and so has that of an answer that was read from a text. -/
  indexed : ∀ (bytes : List UInt8) (answer : ClusterAnswer), form.ofBytes bytes = .ok answer →
    Indexed answer answer.flatten
  /-- Whatever a store shows, metrics stand under their full names. -/
  keyed : ∀ {σ : Type} {S : Source σ} {marks : List Mark} {t : Timeline σ}, Run S marks t →
    ∀ n ∈ t.store.metrics, ∀ e ∈ n.2, e.1 = e.2.fullName
  /-- A text in which a metric cannot be read is not an answer, wherever in it the metric stands, -/
  unread : ∀ bytes : List UInt8, (Json.Document.scan (decode bytes)).root.Spoilt →
    ∀ answer, form.ofBytes bytes ≠ .ok answer
  /-- and a list round that got it leaves the snapshot as it was, as it does unless what it got is an
  answer as a whole. -/
  takes : ∀ {σ : Type} {net : Http.Network σ} {c : Api.Client} {marks : List Mark}
    {t t' : Timeline (Api.Wire σ)} {round time : Nat} {g : Gathered} {result : CallResult},
    Run (Api.source net c) marks t →
    Move (Api.source net c) t (.ended .list round time g result) t' →
    ∃ names before asking asked, .asked .list round names g :: before <:+ marks ∧
      Run (Api.source net c) before asking ∧
      Move (Api.source net c) asking (.asked .list round names g) asked ∧
      Takes (c.metricsResponse? net asking.store.session asking.source.network names) t.store
        t'.store result

/-- An answer is read as a whole or not at all. What is read is flattened into a snapshot in which
only nodes that are null and the earlier of two metrics of one name are missing, and the store shows
it as it is. -/
theorem flattened_whole : FlattenedWhole where
  readable _ proper := exists_ofValue_iff proper
  sections _ _ proper := NodeSection.ofValue_eq_ok proper
  flattens _ _ proper read := flattens proper read
  empty members answer proper read node w total isMember isSection := by
    obtain ⟨_, ⟨⟩, flattens⟩ := flattens proper read
    exact flattens.get?_of_nil isMember isSection
  indexed _ _ read := indexed (sorted_of_ofBytes read)
  keyed run n isNode e isEntry := run.fullName_of_mem isNode isEntry
  unread _ spoilt _ read := not_spoilt_of_ofBytes read spoilt
  takes run move := run.takes move

/-- Nothing is known of one node, and another has no metrics. -/
example : (form.ofValue (.object [("a", .null), ("b", .object [("metrics", .array [])])])).map flatten
    = .ok [("b", [])] := rfl

end ClusterAnswer

end MetricWatch
