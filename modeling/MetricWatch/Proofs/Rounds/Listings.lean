import MetricWatch.Proofs.Maps
import MetricWatch.Proofs.Rounds.Coalescing
import Mathlib.Data.List.Induction

/-!
# The names of the nodes

After a names round the errors of the nodes are those of this round, and the names of a node are
those that its last fetch brought which succeeded, as long as every round since has asked the node.
The main statement is `Run.listed`.
-/

namespace MetricWatch

open Timeline
open Json (Members)

/-! ### Rounds that were completed -/

/-- What the nodes of a names round replied, one by one. -/
abbrev Replies := List (String × Reply (List String))

/-- The replies of a names round that does not break off. -/
def Gathered.replies? : Gathered → Option Replies
  | .names replies => if (breakdown? replies).isSome then none else some replies
  | .list _ => none

/-- The names round that a mark completes. -/
def Mark.completion? : Mark → Option (Nat × Replies)
  | .ended .names round _ g _ => g.replies?.map fun replies => (round, replies)
  | _ => none

/-- The names rounds that were completed, latest first. -/
def completions (marks : List Mark) : List (Nat × Replies) := marks.filterMap Mark.completion?

/-- What is known after names rounds. -/
def known : List (Nat × Replies) → KnownNames
  | [] => .empty
  | (_, replies) :: before => (known before).after (results replies)

/-- What each of some names rounds brought. -/
def listings : List (Nat × Replies) → List Listing
  | [] => []
  | (round, replies) :: before => ⟨round, known ((round, replies) :: before)⟩ :: listings before

/-- Whether names are those of the last fetch of a node that succeeded, every round since having
asked the node in vain. -/
def IsLastKnown (rounds : List (Nat × Replies)) (node : String) (names : List String) : Prop :=
  ∃ since round replies before, rounds = since ++ (round, replies) :: before ∧
    (node, .ok names) ∈ replies ∧
      ∀ x ∈ since, node ∈ x.2.map Prod.fst ∧ ∀ names', (node, .ok names') ∉ x.2

/-- The listing of which an event tells. -/
def Event.listing? : Event → Option Listing
  | .metricsUpdated _ => none
  | .namesUpdated l => some l

/-- The listings of which subscribers were told, latest first. -/
def Store.announced (s : Store) : List Listing := s.channel.sent.filterMap Event.listing?

lemma Gathered.replies?_names (replies : Replies) :
    (Gathered.names replies).replies?
      = if (breakdown? replies).isSome then none else some replies := rfl

lemma Gathered.replies?_eq_some {g : Gathered} {replies : Replies}
    (h : g.replies? = some replies) : g = .names replies ∧ breakdown? replies = none := by
  cases g with
  | list => cases h
  | names own =>
    rw [replies?_names] at h
    cases broke : breakdown? own with
    | some text =>
      rw [broke] at h
      cases h
    | none =>
      rw [broke] at h
      obtain rfl := Option.some.inj h
      exact ⟨rfl, broke⟩

lemma Gathered.replies?_of_unbroken {g : Gathered} (ofNames : g.kind = .names)
    (unbroken : g.breaks = false) : ∃ replies, g = .names replies ∧ g.replies? = some replies := by
  cases g with
  | list => cases ofNames
  | names replies =>
    have whole : (breakdown? replies).isSome = false := unbroken
    refine ⟨replies, rfl, ?_⟩
    rw [replies?_names, whole]
    rfl

lemma Mark.exists_of_completion? {m : Mark} {round : Nat} {replies : Replies}
    (h : m.completion? = some (round, replies)) :
    ∃ time result, m = .ended .names round time (.names replies) result ∧
      breakdown? replies = none := by
  unfold completion? at h
  split at h
  · next round time g result =>
    obtain ⟨own, found, same⟩ := Option.map_eq_some_iff.mp h
    obtain ⟨rfl, rfl⟩ := Prod.mk.inj same
    obtain ⟨rfl, unbroken⟩ := Gathered.replies?_eq_some found
    exact ⟨time, result, rfl, unbroken⟩
  · cases h

lemma Mark.completion?_ended {kind : RoundKind} {g : Gathered} (ofKind : g.kind = kind)
    (round time : Nat) (result : CallResult) :
    (Mark.ended kind round time g result).completion?
      = g.replies?.map fun replies => (round, replies) := by
  subst ofKind
  cases g <;> rfl

/-! ### One round -/

namespace KnownNames

variable {previous : KnownNames} {results : List (String × Except Error (List String))}

lemma names_record (previous known : KnownNames) (node : String)
    (result : Except Error (List String)) (other : String) :
    (previous.record known node result).names.get? other
      = if node = other then
          match result with
          | .ok names => some names
          | .error _ => (previous.names.get? other).or (known.names.get? other)
        else known.names.get? other := by
  cases result with
  | ok names => exact Members.get?_put node names known.names other
  | error e =>
    by_cases own : node = other
    · subst own
      cases found : previous.names.get? node <;> simp [record, found, Members.get?_put]
    · cases found : previous.names.get? node <;> simp [record, found, Members.get?_put, own]

lemma errors_record (previous known : KnownNames) (node : String)
    (result : Except Error (List String)) (other : String) :
    (previous.record known node result).errors.get? other
      = match result with
        | .ok _ => known.errors.get? other
        | .error e => if node = other then some e else known.errors.get? other := by
  cases result with
  | ok names => rfl
  | error e => exact Members.get?_put node e known.errors other

lemma after_append (previous : KnownNames) (results : List (String × Except Error (List String)))
    (node : String) (result : Except Error (List String)) :
    previous.after (results ++ [(node, result)])
      = previous.record (previous.after results) node result := by
  simp [after]

/-- After a round a node has the names that it listed, or those it had if its fetch failed. -/
lemma names_after (distinct : (results.map Prod.fst).Nodup) (node : String) (names : List String) :
    (previous.after results).names.get? node = some names
      ↔ (node, .ok names) ∈ results ∨
        (∃ e, (node, .error e) ∈ results) ∧ previous.names.get? node = some names := by
  induction results using List.reverseRecOn generalizing names with
  | nil => simp [after, empty]
  | append_singleton results r ih =>
    obtain ⟨other, result⟩ := r
    rw [List.map_append, List.nodup_append] at distinct
    obtain ⟨distinct, -, apart⟩ := distinct
    rw [after_append, names_record]
    by_cases own : other = node
    · subst own
      -- The node was not asked before in this round.
      have new (result' : Except Error (List String)) : (other, result') ∉ results := fun mem =>
        apart other (List.mem_map_of_mem mem) other (List.mem_singleton_self _) rfl
      have nothing : (previous.after results).names.get? other = none := by
        apply Option.eq_none_iff_forall_ne_some.mpr
        intro names' found
        rcases (ih distinct names').mp found with mem | ⟨⟨e, mem⟩, -⟩
        · exact new _ mem
        · exact new _ mem
      cases result with
      | ok names' => simp [new, eq_comm]
      | error e => simp [new, nothing]
    · rw [if_neg own, ih distinct]
      simp [Ne.symm own]

/-- After a round the errors are those of the nodes whose fetch failed. -/
lemma errors_after (distinct : (results.map Prod.fst).Nodup) (node : String) (e : Error) :
    (previous.after results).errors.get? node = some e ↔ (node, .error e) ∈ results := by
  induction results using List.reverseRecOn generalizing e with
  | nil => simp [after, empty]
  | append_singleton results r ih =>
    obtain ⟨other, result⟩ := r
    rw [List.map_append, List.nodup_append] at distinct
    obtain ⟨distinct, -, apart⟩ := distinct
    rw [after_append, errors_record]
    by_cases own : other = node
    · subst own
      have new (result' : Except Error (List String)) : (other, result') ∉ results := fun mem =>
        apart other (List.mem_map_of_mem mem) other (List.mem_singleton_self _) rfl
      cases result with
      | ok names => simp [ih distinct, new]
      | error e' => simp [new, eq_comm]
    · cases result with
      | ok names => simp [ih distinct]
      | error e' => simp [ih distinct, own, Ne.symm own]

end KnownNames

/-! ### Replies -/

namespace Timeline

variable {σ : Type} {S : Source σ} {t t' : Timeline σ} {marks later : List Mark} {w w' : Work}
  {m : Mark}

lemma mem_results_ok {replies : Replies} {node : String} {names : List String} :
    (node, .ok names) ∈ results replies ↔ (node, .ok names) ∈ replies := by
  constructor
  · intro mem
    obtain ⟨⟨other, reply⟩, isReply, own⟩ := List.mem_filterMap.mp mem
    cases reply with
    | ok names' =>
      obtain ⟨rfl, same⟩ := Prod.mk.inj (Option.some.inj own)
      rwa [← Except.ok.inj same]
    | failed e =>
      cases own
    | broke text => cases own
  · intro mem
    exact List.mem_filterMap.mpr ⟨_, mem, rfl⟩

lemma mem_results_error {replies : Replies} {node : String} {e : Error} :
    (node, .error e) ∈ results replies ↔ (node, .failed e) ∈ replies := by
  constructor
  · intro mem
    obtain ⟨⟨other, reply⟩, isReply, own⟩ := List.mem_filterMap.mp mem
    cases reply with
    | failed e' =>
      obtain ⟨rfl, same⟩ := Prod.mk.inj (Option.some.inj own)
      rwa [← Except.error.inj same]
    | ok names => cases own
    | broke text => cases own
  · intro mem
    exact List.mem_filterMap.mpr ⟨_, mem, rfl⟩

/-- Only nodes that were asked have results, each one. -/
lemma distinct_results {replies : Replies} (distinct : (replies.map Prod.fst).Nodup) :
    ((results replies).map Prod.fst).Nodup := by
  refine distinct.sublist ?_
  induction replies with
  | nil => exact .slnil
  | cons r replies ih =>
    obtain ⟨node, reply⟩ := r
    have rest := ih distinct.of_cons
    cases reply with
    | ok | failed => exact rest.cons_cons node
    | broke => exact rest.cons node

/-- A node is asked, and then the others are, unless it breaks down. -/
lemma askNames_first (S : Source σ) (node : String) (rest : List String) (t : Timeline σ) :
    ∃ answer after, (askNames S (node :: rest) t).1 = (node, answer) :: (askNames S rest after).1 ∨
      (askNames S (node :: rest) t).1 = [(node, answer)] ∧ ∃ text, answer.reply = .broke text := by
  refine ⟨t.nodeAnswer S node, t.afterNode S node, ?_⟩
  rw [askNames_cons]
  dsimp only
  split
  next text broke =>
    split
    · exact .inr ⟨rfl, text, broke⟩
    · exact .inl rfl
  next => exact .inl rfl

lemma breakdown?_cons {r : String × Reply (List String)} {replies : Replies}
    (unbroken : breakdown? (r :: replies) = none) :
    (∀ text, r.2 ≠ .broke text) ∧ breakdown? replies = none := by
  obtain ⟨node, reply⟩ := r
  cases reply with
  | ok | failed =>
    refine ⟨?_, unbroken⟩
    intro text broke
    cases broke
  | broke => cases unbroken

lemma not_broke {replies : Replies} (unbroken : breakdown? replies = none) {node : String}
    {text : String} : (node, .broke text) ∉ replies := by
  intro mem
  cases breakdown?_eq_none_iff.mp unbroken _ mem

/-- A node whose fetch failed is one that was asked and has not listed anything. -/
lemma failed_iff {replies : Replies} (distinct : (replies.map Prod.fst).Nodup)
    (unbroken : breakdown? replies = none) {node : String} :
    (∃ e, (node, .failed e) ∈ replies)
      ↔ node ∈ replies.map Prod.fst ∧ ∀ names, (node, .ok names) ∉ replies := by
  constructor
  · rintro ⟨e, failed⟩
    refine ⟨List.mem_map_of_mem (f := Prod.fst) failed, ?_⟩
    intro names listed
    cases List.inj_on_of_nodup_map distinct failed listed rfl
  · rintro ⟨asked, nothing⟩
    obtain ⟨⟨_, reply⟩, mem, rfl⟩ := List.mem_map.mp asked
    cases reply with
    | ok names => exact absurd mem (nothing names)
    | failed e => exact ⟨e, mem⟩
    | broke text => exact absurd mem (not_broke unbroken)

/-- A round that does not break off asks every node. -/
lemma nodes_askNames (S : Source σ) (items : List String) (t : Timeline σ)
    (unbroken : breakdown? ((askNames S items t).1.map fun a => (a.1, a.2.reply)) = none) :
    (askNames S items t).1.map Prod.fst = items := by
  induction items generalizing t with
  | nil => rfl
  | cons node rest ih =>
    obtain ⟨answer, after, all | ⟨alone, text, broke⟩⟩ := askNames_first S node rest t
    · rw [all] at unbroken ⊢
      obtain ⟨-, unbrokenRest⟩ := breakdown?_cons unbroken
      rw [List.map_cons, ih after unbrokenRest]
    · rw [alone] at unbroken
      exact absurd broke ((breakdown?_cons unbroken).1 text)

/-! ### Several rounds -/

lemma isLastKnown_cons {round : Nat} {replies : Replies} {before : List (Nat × Replies)}
    {node : String} {names : List String} :
    IsLastKnown ((round, replies) :: before) node names
      ↔ (node, .ok names) ∈ replies ∨
        (node ∈ replies.map Prod.fst ∧ ∀ names', (node, .ok names') ∉ replies) ∧
          IsLastKnown before node names := by
  constructor
  · rintro ⟨since, round', replies', before', split, listed, inVain⟩
    cases since with
    | nil =>
      obtain ⟨own, rfl⟩ := List.cons.inj split
      rw [(Prod.mk.inj own).2]
      exact .inl listed
    | cons x since =>
      obtain ⟨rfl, rest⟩ := List.cons.inj split
      obtain ⟨first, others⟩ := List.forall_mem_cons.mp inVain
      exact .inr ⟨first, since, round', replies', before', rest, listed, others⟩
  · rintro (listed | ⟨first, since, round', replies', before', rfl, listed, others⟩)
    · exact ⟨[], round, replies, before, rfl, listed, List.forall_mem_nil _⟩
    · exact ⟨(round, replies) :: since, round', replies', before', rfl, listed,
        List.forall_mem_cons.mpr ⟨first, others⟩⟩

/-- The names that are known after rounds which asked no node twice. -/
theorem names_known {rounds : List (Nat × Replies)}
    (tidy : ∀ x ∈ rounds, (x.2.map Prod.fst).Nodup ∧ breakdown? x.2 = none) (node : String)
    (names : List String) :
    (known rounds).names.get? node = some names ↔ IsLastKnown rounds node names := by
  induction rounds with
  | nil => simp [known, KnownNames.empty, IsLastKnown]
  | cons x rounds ih =>
    obtain ⟨round, replies⟩ := x
    obtain ⟨⟨distinct, unbroken⟩, tidyRest⟩ := List.forall_mem_cons.mp tidy
    rw [known, KnownNames.names_after (distinct_results distinct), isLastKnown_cons, ih tidyRest,
      ← failed_iff distinct unbroken, mem_results_ok]
    simp only [mem_results_error]

/-- The errors that are known after rounds which asked no node twice. -/
theorem errors_known {rounds : List (Nat × Replies)}
    (tidy : ∀ x ∈ rounds, (x.2.map Prod.fst).Nodup) (node : String) (e : Error) :
    (known rounds).errors.get? node = some e
      ↔ ∃ last, rounds.head? = some last ∧ (node, .failed e) ∈ last.2 := by
  cases rounds with
  | nil => simp [known, KnownNames.empty]
  | cons x rounds =>
    obtain ⟨round, replies⟩ := x
    have distinct := tidy _ List.mem_cons_self
    rw [known, KnownNames.errors_after (distinct_results distinct), mem_results_error]
    simp

/-! ### What is shown and told -/

/-- What a store shows of names after a round: what the round brought, or what it showed before. -/
lemma listing_conclude (s : Store) (round now : Nat) (g : Gathered) :
    (conclude s round now g).listing
      = (g.replies?.map fun replies => ⟨round, s.knownNames.after (results replies)⟩).or s.listing := by
  cases g with
  | list reply => cases reply <;> rfl
  | names replies =>
    rw [Gathered.replies?_names]
    cases broke : breakdown? replies <;> simp only [conclude, broke] <;> rfl

/-- What a store tells of names at the end of a round: what the round brought, if anything. -/
lemma announced_conclude (s : Store) (round now : Nat) (g : Gathered) :
    (conclude s round now g).announced
      = (g.replies?.map fun replies => ⟨round, s.knownNames.after (results replies)⟩).toList
        ++ s.announced := by
  cases g with
  | list reply => cases reply <;> rfl
  | names replies =>
    rw [Gathered.replies?_names]
    cases broke : breakdown? replies <;> simp only [conclude, broke] <;> rfl

/-- Only the end of a names round that does not break off changes what is shown and told of
names. -/
lemma listed_change (orderly : Orderly marks w) (change : Change w m w') :
    w'.store.listing = (m.completion?.map fun x =>
        ⟨x.1, w.store.knownNames.after (results x.2)⟩).or w.store.listing ∧
      w'.store.announced = (m.completion?.map fun x =>
        ⟨x.1, w.store.knownNames.after (results x.2)⟩).toList ++ w.store.announced := by
  cases change with
  | @ended f g isThere asked now =>
    obtain ⟨-, ofKind, -⟩ := orderly.answered isThere asked
    rw [Mark.completion?_ended ofKind, Option.map_map]
    exact ⟨listing_conclude .., announced_conclude ..⟩
  | started =>
    rw [Work.store_tell, Work.store_start, Store.listing_occupy, Store.announced,
      Store.channel_occupy]
    exact ⟨rfl, rfl⟩
  | declined | joined =>
    rw [Work.store_tell]
    exact ⟨rfl, rfl⟩
  | chore c =>
    exact ⟨Store.listing_perform .., congrArg (List.filterMap _) (Store.sent_perform ..)⟩
  | served | spawned | abandoned | asked | delayed | aside => exact ⟨rfl, rfl⟩

lemma knownNames_of_listing {s : Store} {rounds : List (Nat × Replies)}
    (h : s.listing = (listings rounds).head?) : s.knownNames = known rounds := by
  rw [Store.knownNames, h]
  cases rounds <;> rfl

/-- What a store shows of names is what the last completed round brought, and its subscribers were
told of all. -/
theorem Run.announced (run : Run S marks t) :
    t.store.listing = (listings (completions marks)).head? ∧
      t.store.announced = listings (completions marks) := by
  refine (run.induct (P := fun marks w => Orderly marks w ∧
    w.store.listing = (listings (completions marks)).head? ∧
      w.store.announced = listings (completions marks)) ?_ ?_).2
  · intro w fresh
    refine ⟨.fresh fresh, ?_⟩
    obtain ⟨session, directory, namesNamespace, capacity, rfl⟩ := fresh
    exact ⟨rfl, rfl⟩
  · rintro marks w m w' ⟨orderly, listing, announced⟩ change
    obtain ⟨listing', announced'⟩ := listed_change orderly change
    refine ⟨orderly.change change, ?_⟩
    rw [listing', announced', knownNames_of_listing listing, listing, announced, completions,
      completions, List.filterMap_cons]
    cases m.completion? <;> exact ⟨rfl, rfl⟩

/-! ### Where replies come from -/

/-- The replies of a round are what the source answered when the round asked all the nodes that
were in the directory at its start. -/
def IsAsked (S : Source σ) (marks : List Mark) (round : Nat) (replies : Replies) : Prop :=
  ∃ who earlier t₀ before asking,
    .started who .names round (replies.map Prod.fst) :: earlier <:+ marks ∧ Run S earlier t₀ ∧
      t₀.store.directory.nodes = some (replies.map Prod.fst) ∧
      .asked .names round (replies.map Prod.fst) (.names replies) :: before <:+ marks ∧
      Run S before asking ∧ .names replies = (ask S asking .names (replies.map Prod.fst)).1

lemma Run.asked (run : Run S marks t) {round : Nat} {replies : Replies}
    (mem : (round, replies) ∈ completions marks) : IsAsked S marks round replies := by
  obtain ⟨m, isMark, h⟩ := List.mem_filterMap.mp mem
  obtain ⟨time, result, rfl, unbroken⟩ := Mark.exists_of_completion? h
  obtain ⟨asked, later, ending, _, rfl, ended, move, -⟩ := run.of_mem isMark
  obtain ⟨items, before, asking, _, isAsked, run', asks⟩ := ended.asked_of_ended move
  obtain ⟨replied, -⟩ := asks.of_asked
  -- The round did not break off, so all its nodes were asked.
  have all : replies.map Prod.fst = items := by
    have same := Gathered.names.inj replied
    rw [same] at unbroken
    have whole := arrived_of_unbroken unbroken
    rw [whole] at same unbroken
    have nodes := nodes_askNames S items asking unbroken
    rw [same, List.map_map]
    exact nodes
  rw [← all] at isAsked replied
  obtain ⟨who, earlier, t₀, t₁, isStarted, run₀, move₀⟩ :=
    ended.started_of_asked (isAsked.subset List.mem_cons_self)
  have known : t₀.store.directory.nodes = some (replies.map Prod.fst) := move₀.of_started.1
  have recorded {l : List Mark} (h : l <:+ asked) :
      l <:+ later ++ .ended .names round time (.names replies) result :: asked :=
    h.trans ((List.suffix_cons _ asked).trans (List.suffix_append later _))
  exact ⟨who, earlier, t₀, before, asking, recorded isStarted, run₀, known, recorded isAsked, run',
    replied⟩

/-- No round asks a node twice if no directory names a node twice. -/
lemma Run.tidy (run : Run S marks t) (distinct : ∀ x ∈ starts .names marks, x.2.Nodup) :
    ∀ x ∈ completions marks, (x.2.map Prod.fst).Nodup ∧ breakdown? x.2 = none := by
  rintro ⟨round, replies⟩ mem
  obtain ⟨who, earlier, _, _, _, isStarted, -⟩ := run.asked mem
  obtain ⟨m, -, h⟩ := List.mem_filterMap.mp mem
  obtain ⟨_, _, -, unbroken⟩ := Mark.exists_of_completion? h
  have started := mem_starts.mpr ⟨who, isStarted.subset List.mem_cons_self⟩
  exact ⟨distinct _ started, unbroken⟩

/-- Completed rounds are rounds that ended. -/
lemma completions_sublist (marks : List Mark) :
    ((completions marks).map Prod.fst).Sublist ((ends .names marks).map Prod.fst) := by
  apply sublist_ends
  intro m x isCompletion
  obtain ⟨time, result, rfl, -⟩ := Mark.exists_of_completion? isCompletion
  exact ⟨_, _, _, rfl⟩

/-! ### The main statement -/

/-- How the names that a store shows stand to the names rounds that were completed. -/
structure Listed (S : Source σ) (marks : List Mark) (t : Timeline σ) : Prop where
  /-- The errors are those of the nodes whose fetch failed in the last round. -/
  errors : ∀ node e, t.store.knownNames.errors.get? node = some e
    ↔ ∃ last, (completions marks).head? = some last ∧ (node, .failed e) ∈ last.2
  /-- The names of a node are those of its last fetch that succeeded, if every round since has
  asked the node. -/
  names : ∀ node names, t.store.knownNames.names.get? node = some names
    ↔ IsLastKnown (completions marks) node names
  /-- Nothing is known of nodes that the last round did not ask. -/
  outside : ∀ last, (completions marks).head? = some last → ∀ node ∉ last.2.map Prod.fst,
    t.store.knownNames.names.get? node = none ∧ t.store.knownNames.errors.get? node = none
  /-- A round asks the nodes of the directory as it was when the round started, and takes what the
  source answers. -/
  asked : ∀ {round replies}, (round, replies) ∈ completions marks → IsAsked S marks round replies
  /-- Subscribers are told of every completed round, once and in order, -/
  told : t.store.announced = listings (completions marks)
  /-- and later rounds have greater numbers. -/
  upwards : ((completions marks).map Prod.fst).Pairwise (· > ·)
  /-- A round that is completed replaces what is shown, tells of what it shows, and gives the same
  to all who wait for it. -/
  replaced : ∀ {round time g result t'}, Move S t (.ended .names round time g result) t' →
    g.breaks = false →
      ∃ l : Listing, l.round = round ∧ t'.store.listing = some l ∧ t'.store.knownNames = l.known ∧
        t'.store.channel.sent = .namesUpdated l :: t.store.channel.sent ∧
        result = .named (some (.ok l))
  /-- Nothing else changes what is shown and told of names. -/
  kept : ∀ {m t'}, Move S t m t' →
    (∀ round time g result, m = .ended .names round time g result → g.breaks = true) →
      t'.store.listing = t.store.listing ∧ t'.store.announced = t.store.announced

/-- The names are those of the completed rounds all along a run on which no directory names a node
twice. -/
theorem Run.listed (run : Run S marks t) (distinct : ∀ x ∈ starts .names marks, x.2.Nodup) :
    Listed S marks t where
  errors node e := by
    rw [knownNames_of_listing run.announced.1]
    exact errors_known (fun x mem => (run.tidy distinct x mem).1) node e
  names node names := by
    rw [knownNames_of_listing run.announced.1]
    exact names_known (run.tidy distinct) node names
  outside last isLast node notAsked := by
    have isRound := List.mem_of_mem_head? isLast
    rw [knownNames_of_listing run.announced.1]
    constructor
    · apply Option.eq_none_iff_forall_ne_some.mpr
      intro names found
      obtain ⟨since, round, replies, before, split, listed, inVain⟩ :=
        (names_known (run.tidy distinct) node names).mp found
      rw [split] at isLast
      cases since with
      | nil =>
        obtain rfl := Option.some.inj isLast
        exact notAsked (List.mem_map_of_mem (f := Prod.fst) listed)
      | cons x since =>
        obtain rfl := Option.some.inj isLast
        exact notAsked (inVain _ List.mem_cons_self).1
    · apply Option.eq_none_iff_forall_ne_some.mpr
      intro e found
      obtain ⟨last', isLast', failed⟩ :=
        (errors_known (fun x mem => (run.tidy distinct x mem).1) node e).mp found
      obtain rfl := Option.some.inj (isLast.symm.trans isLast')
      exact notAsked (List.mem_map_of_mem (f := Prod.fst) failed)
  asked mem := run.asked mem
  told := run.announced.2
  upwards := (run.orderly.ends_decreasing .names).sublist (completions_sublist marks)
  replaced {round time g result t'} move unbroken := by
    obtain ⟨rfl, f, isThere, ofKind, -, gathered, rfl, work⟩ := move.of_ended
    obtain ⟨-, ofKind', -⟩ := run.orderly.answered isThere gathered
    obtain ⟨replies, rfl, found⟩ := Gathered.replies?_of_unbroken (ofKind'.trans ofKind) unbroken
    obtain ⟨-, whole⟩ := Gathered.replies?_eq_some found
    have store : t'.store = t.store.endNames round (results replies) := by
      rw [show t'.store = conclude t.store round t.now (.names replies) from congrArg Work.store work]
      simp only [conclude, whole]
    refine ⟨⟨round, t.store.knownNames.after (results replies)⟩, rfl, ?_, ?_, ?_, ?_⟩
    · rw [store]
      rfl
    · rw [store]
      rfl
    · rw [store]
      rfl
    · simp only [ending, whole]
  kept {m t'} move other := by
    have quiet : m.completion? = none := by
      cases h : m.completion? with
      | none => rfl
      | some x =>
        obtain ⟨round, replies⟩ := x
        obtain ⟨time, result, rfl, unbroken⟩ := Mark.exists_of_completion? h
        have broke : (breakdown? replies).isSome = true := other _ _ _ _ rfl
        rw [unbroken] at broke
        cases broke
    obtain ⟨listing, announced⟩ := listed_change run.orderly move.change
    rw [quiet] at listing announced
    exact ⟨listing, announced⟩

/-- The record of two rounds that ask the same two nodes, the replies being given. -/
def relistedMarks (first last : Replies) : List Mark :=
  [.ended .names 1 0 (.names last) (.named (some (.ok ⟨1, known [(1, last), (0, first)]⟩))),
    .asked .names 1 ["a", "b"] (.names last), .started none .names 1 ["a", "b"],
    .ended .names 0 0 (.names first) (.named (some (.ok ⟨0, known [(0, first)]⟩))),
    .asked .names 0 ["a", "b"] (.names first), .started none .names 0 ["a", "b"],
    .chore (.updateNodes ["a", "b"])]

/-- A node that fails after it listed its names, and a node that never lists any. -/
theorem listed_relisted :
    let marks := relistedMarks [("a", .ok ["x"]), ("b", .failed ⟨.notFound, "b"⟩)]
      [("a", .failed ⟨.network, "down"⟩), ("b", .failed ⟨.notFound, "b"⟩)]
    ∃ t, Run Script.source marks t ∧ (∀ x ∈ starts .names marks, x.2.Nodup) ∧
      Listed Script.source marks t := by
  intro marks
  have known := Path.single (S := Script.source) (.chore (start sharedStore
    { names := [("a", [.ok ["x"], .failed ⟨.network, "down"⟩])] }) (.updateNodes ["a", "b"]))
  have started := known.tail (.call none .names (by simp [Work.MayCall]))
  have asked := started.tail (.ask (.head _) rfl)
  have ended := asked.tail (.finish (.head _) rfl)
  have again := ended.tail (.call none .names (by simp [Work.MayCall]))
  have asked' := again.tail (.ask (.head _) rfl)
  have ended' := asked'.tail (.finish (.head _) rfl)
  have run : ∃ t, Run Script.source marks t := ⟨_, _, ⟨_, _, _, _, _, rfl⟩, ended'⟩
  obtain ⟨t, run⟩ := run
  have distinct : ∀ x ∈ starts .names marks, x.2.Nodup := by decide
  exact ⟨t, run, distinct, run.listed distinct⟩

end Timeline

end MetricWatch
