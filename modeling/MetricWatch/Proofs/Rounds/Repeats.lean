import MetricWatch.Proofs.Rounds.Listings

/-!
# Nodes that are asked more than once

A names round asks a node as often as the directory names it, and takes the outcomes one after the
other. If any of the fetches failed the node has an error, but the names of before are kept only if
the last fetch failed: a list that comes later replaces them, and where there were none a list that
came earlier stands. The main statement is `Run.repeated`.
-/

namespace MetricWatch

open Timeline
open Json (Members)

namespace KnownNames

/-- How the fetches of the nodes ended, in order. -/
abbrev Results := List (String × Except Error (List String))

variable {previous : KnownNames} {results : Results} {node : String}
  {fetches : List (Except Error (List String))}

/-! ### The fetches of one node -/

/-- How the fetches of a node ended, in order. -/
def outcomes (results : Results) (node : String) : List (Except Error (List String)) :=
  (results.filter fun r => r.1 = node).map Prod.snd

/-- The lists that fetches brought. -/
def lists (fetches : List (Except Error (List String))) : List (List String) :=
  fetches.filterMap Except.toOption

/-- The errors of the fetches that failed. -/
def failures (fetches : List (Except Error (List String))) : List Error :=
  fetches.filterMap fun
    | .ok _ => none
    | .error e => some e

/-- The names of a node after its fetches: those of the last fetch, or if it failed those of before,
or if there were none those of the last fetch that succeeded. -/
def standing (before : Option (List String)) (fetches : List (Except Error (List String))) :
    Option (List String) :=
  match fetches.getLast? with
  | none => none
  | some (.ok names) => some names
  | some (.error _) => before.or (lists fetches).getLast?

lemma outcomes_append (results : Results) (r : String × Except Error (List String))
    (node : String) : outcomes (results ++ [r]) node
      = outcomes results node ++ if r.1 = node then [r.2] else [] := by
  by_cases own : r.1 = node <;> simp [outcomes, own]

lemma mem_outcomes {outcome : Except Error (List String)} :
    outcome ∈ outcomes results node ↔ (node, outcome) ∈ results := by
  simp [outcomes]

lemma mem_lists {names : List String} : names ∈ lists fetches ↔ .ok names ∈ fetches := by
  simp only [lists, List.mem_filterMap]
  constructor
  · rintro ⟨outcome, mem, ok⟩
    cases outcome with
    | error e => cases ok
    | ok names' => rwa [← Option.some.inj ok]
  · exact fun mem => ⟨_, mem, rfl⟩

lemma mem_failures {e : Error} : e ∈ failures fetches ↔ .error e ∈ fetches := by
  simp only [failures, List.mem_filterMap]
  constructor
  · rintro ⟨outcome, mem, failed⟩
    cases outcome with
    | ok names => cases failed
    | error e' => rwa [← Option.some.inj failed]
  · exact fun mem => ⟨_, mem, rfl⟩

lemma getLast?_lists_concat (fetches : List (Except Error (List String))) (names : List String) :
    (lists (fetches ++ [.ok names])).getLast? = some names := by
  simp [lists, Except.toOption]

lemma standing_concat_ok (before : Option (List String))
    (fetches : List (Except Error (List String))) (names : List String) :
    standing before (fetches ++ [.ok names]) = some names := by
  rw [standing, List.getLast?_concat]

/-- Once a fetch has failed the names of before are back, if there were any. -/
lemma standing_concat_error (before : Option (List String))
    (fetches : List (Except Error (List String))) (e : Error) :
    standing before (fetches ++ [.error e]) = before.or (standing before fetches) := by
  have same : lists (fetches ++ [.error e]) = lists fetches := by simp [lists, Except.toOption]
  rw [standing, List.getLast?_concat]
  dsimp only
  rw [same]
  cases fetches using List.reverseRecOn with
  | nil => rfl
  | append_singleton fetches last =>
    rw [standing, List.getLast?_concat]
    cases last with
    | ok names => rw [getLast?_lists_concat]
    | error e' => simp only [← Option.or_assoc, Option.or_self]

/-! ### One round -/

lemma errors_eq_failures (previous : KnownNames) (results : Results) (node : String) :
    (previous.after results).errors.get? node = (failures (outcomes results node)).getLast? := by
  induction results using List.reverseRecOn with
  | nil => rfl
  | append_singleton results r ih =>
    obtain ⟨other, result⟩ := r
    rw [after_append, errors_record, outcomes_append, ih]
    cases result with
    | ok names => by_cases own : other = node <;> simp [own, failures]
    | error e => by_cases own : other = node <;> simp [own, failures]

lemma names_eq_standing (previous : KnownNames) (results : Results) (node : String) :
    (previous.after results).names.get? node
      = standing (previous.names.get? node) (outcomes results node) := by
  induction results using List.reverseRecOn with
  | nil => rfl
  | append_singleton results r ih =>
    obtain ⟨other, result⟩ := r
    rw [after_append, names_record, outcomes_append, ih]
    by_cases own : other = node
    · rw [if_pos own, if_pos own]
      cases result with
      | ok names => exact (standing_concat_ok ..).symm
      | error e => exact (standing_concat_error ..).symm
    · rw [if_neg own, if_neg own, List.append_nil]

/-- Whether nodes with an error have the names of before, and other nodes that were asked have a
list that a fetch of theirs brought. -/
structure Keeps (previous : KnownNames) (results : Results) (known : KnownNames) : Prop where
  failed : ∀ node e, known.errors.get? node = some e →
    known.names.get? node = previous.names.get? node
  fetched : ∀ node ∈ results.map Prod.fst, known.errors.get? node = none →
    ∃ names, (node, .ok names) ∈ results ∧ known.names.get? node = some names

/-- How what is known after a round follows from how its fetches ended. -/
structure Follows (previous : KnownNames) (results : Results) (known : KnownNames) : Prop where
  /-- The error of a node is that of its last fetch that failed. -/
  errors : ∀ node, known.errors.get? node = (failures (outcomes results node)).getLast?
  /-- The names of a node are those of its last fetch, or if it failed those of before, or if there
  were none those of its last fetch that succeeded. -/
  names : ∀ node, known.names.get? node
    = standing (previous.names.get? node) (outcomes results node)
  /-- So a node that was asked and has no error has a list that a fetch of it brought, -/
  fetched : ∀ node ∈ results.map Prod.fst, known.errors.get? node = none →
    ∃ names, (node, .ok names) ∈ results ∧ known.names.get? node = some names
  /-- and a node with an error has other names than before exactly if a fetch of it brought others,
  which was its last or found that there were none. -/
  replaced_iff : ∀ node e, known.errors.get? node = some e →
    (known.names.get? node ≠ previous.names.get? node
      ↔ ∃ names, (lists (outcomes results node)).getLast? = some names ∧
        previous.names.get? node ≠ some names ∧
        ((outcomes results node).getLast? = some (.ok names) ∨ previous.names.get? node = none))
  /-- Nodes with an error have the names of before if all fetches of a node end alike, -/
  uniform : (∀ node e names, (node, .error e) ∈ results → (node, .ok names) ∉ results) →
    Keeps previous results known
  /-- as they do if none is asked twice. -/
  once : (results.map Prod.fst).Nodup → Keeps previous results known

lemma exists_list_of_noError (asked : node ∈ results.map Prod.fst)
    (noError : (previous.after results).errors.get? node = none) :
    ∃ names, (node, .ok names) ∈ results ∧
      (previous.after results).names.get? node = some names := by
  rw [errors_eq_failures, List.getLast?_eq_none_iff] at noError
  obtain ⟨⟨node, outcome⟩, mem, rfl⟩ := List.mem_map.mp asked
  have nonempty : outcomes results node ≠ [] := List.ne_nil_of_mem (mem_outcomes.mpr mem)
  obtain ⟨before, last, split⟩ := (outcomes results node).eq_nil_or_concat'.resolve_left nonempty
  have isOutcome : last ∈ outcomes results node := by simp [split]
  rw [names_eq_standing, split]
  cases last with
  | error e =>
    have failed := mem_failures.mpr isOutcome
    rw [noError] at failed
    cases failed
  | ok names => exact ⟨names, mem_outcomes.mp isOutcome, standing_concat_ok ..⟩

lemma replaced_iff_of_error {e : Error}
    (error : (previous.after results).errors.get? node = some e) :
    (previous.after results).names.get? node ≠ previous.names.get? node
      ↔ ∃ names, (lists (outcomes results node)).getLast? = some names ∧
        previous.names.get? node ≠ some names ∧
        ((outcomes results node).getLast? = some (.ok names) ∨
          previous.names.get? node = none) := by
  rw [errors_eq_failures] at error
  rw [names_eq_standing]
  cases fetches : outcomes results node using List.reverseRecOn with
  | nil =>
    rw [fetches] at error
    cases error
  | append_singleton before last =>
    cases last with
    | ok names =>
      rw [standing_concat_ok, getLast?_lists_concat, List.getLast?_concat]
      simp [eq_comm]
    | error e' =>
      rw [standing, List.getLast?_concat]
      cases previous.names.get? node with
      | none =>
        rw [Option.none_or, Option.ne_none_iff_exists']
        simp
      | some names => simp

lemma keeps_of_uniform
    (uniform : ∀ node e names, (node, .error e) ∈ results → (node, .ok names) ∉ results) :
    Keeps previous results (previous.after results) where
  failed node e error := by
    by_contra replaced
    obtain ⟨names, listed, -⟩ := (replaced_iff_of_error error).mp replaced
    rw [errors_eq_failures] at error
    have failed := mem_outcomes.mp (mem_failures.mp (List.mem_of_getLast? error))
    have ok := mem_outcomes.mp (mem_lists.mp (List.mem_of_getLast? listed))
    exact uniform node e names failed ok
  fetched _ := exists_list_of_noError

theorem follows_after (previous : KnownNames) (results : Results) :
    Follows previous results (previous.after results) where
  errors := errors_eq_failures previous results
  names := names_eq_standing previous results
  fetched _ := exists_list_of_noError
  replaced_iff _ _ := replaced_iff_of_error
  uniform := keeps_of_uniform
  once distinct := keeps_of_uniform fun _ _ _ failed ok => by
    cases List.inj_on_of_nodup_map distinct failed ok rfl

end KnownNames

namespace Timeline

variable {σ : Type} {S : Source σ} {t t' : Timeline σ} {marks : List Mark}

/-! ### Rounds of a run -/

/-- Every fetch of a round that does not break off ends. -/
lemma nodes_results {replies : Replies} (unbroken : breakdown? replies = none) :
    (results replies).map Prod.fst = replies.map Prod.fst := by
  induction replies with
  | nil => rfl
  | cons r replies ih =>
    obtain ⟨node, reply⟩ := r
    have rest := ih (breakdown?_cons unbroken).2
    cases reply with
    | ok | failed => exact congrArg (node :: ·) rest
    | broke => cases unbroken

/-- How names rounds change what is known, whether or not they ask a node twice. -/
structure Repeated (S : Source σ) (marks : List Mark) (t : Timeline σ) : Prop where
  /-- A round that does not break off asks the nodes of the directory as it was when the round
  started, each as often as it is named there, and what is known afterwards follows from what was
  known before and how each fetch ended. -/
  followed : ∀ {round time replies result t'},
    Move S t (.ended .names round time (.names replies) result) t' → breakdown? replies = none →
      IsAsked S (.ended .names round time (.names replies) result :: marks) round replies ∧
        (results replies).map Prod.fst = replies.map Prod.fst ∧
        KnownNames.Follows t.store.knownNames (results replies) t'.store.knownNames
  /-- Nothing else changes what is known. -/
  kept : ∀ {m t'}, Move S t m t' → m.completion? = none →
    t'.store.knownNames = t.store.knownNames

/-- A names round goes through what its fetches brought in order: names replace those of their node,
and a failure puts back the ones that were known before the round, if there were any. -/
theorem Run.repeated (run : Run S marks t) : Repeated S marks t where
  followed {round time replies result t'} move unbroken := by
    have completed : (Mark.ended .names round time (.names replies) result).completion?
        = some (round, replies) := by
      have ofKind : (Gathered.names replies).kind = .names := rfl
      rw [Mark.completion?_ended ofKind, Gathered.replies?_names, unbroken]
      rfl
    have isRound : (round, replies)
        ∈ completions (.ended .names round time (.names replies) result :: marks) :=
      List.mem_filterMap.mpr ⟨_, List.mem_cons_self, completed⟩
    have listing := (listed_change run.orderly move.change).1
    rw [completed] at listing
    have known : t'.store.knownNames = t.store.knownNames.after (results replies) := by
      rw [Store.knownNames, show t'.store.listing = _ from listing]
      rfl
    refine ⟨(run.tail move).asked isRound, nodes_results unbroken, ?_⟩
    rw [known]
    exact KnownNames.follows_after ..
  kept {m t'} move quiet := by
    have listing := (listed_change run.orderly move.change).1
    rw [quiet] at listing
    rw [Store.knownNames, Store.knownNames, show t'.store.listing = t.store.listing from listing]

/-- The replies of a node that is asked twice: it fails, and then it lists a name. -/
def wavering : Replies := [("a", .failed ⟨.network, "down"⟩), ("a", .ok ["x"])]

/-- The record of a round that has asked such a node, of which nothing is known, -/
def waveringMarks : List Mark :=
  [.asked .names 0 ["a", "a"] (.names wavering), .started none .names 0 ["a", "a"],
    .chore (.updateNodes ["a", "a"])]

/-- and the end of the round. -/
def waveringEnd : Mark :=
  .ended .names 0 0 (.names wavering) (.named (some (.ok ⟨0, known [(0, wavering)]⟩)))

lemma wavering_run :
    ∃ t t', Run Script.source waveringMarks t ∧ Move Script.source t waveringEnd t' := by
  have named := Path.single (S := Script.source) (.chore (start sharedStore
    { names := [("a", [.failed ⟨.network, "down"⟩, .ok ["x"]])] }) (.updateNodes ["a", "a"]))
  have started := named.tail (.call none .names (by simp [Work.MayCall]))
  have asked := started.tail (.ask (.head _) rfl)
  have ended := asked.tail (.finish (.head _) rfl)
  have run : ∃ t, Run Script.source (waveringEnd :: waveringMarks) t :=
    ⟨_, _, ⟨_, _, _, _, _, rfl⟩, ended⟩
  obtain ⟨t', t₀, fresh, path⟩ := run
  cases path with
  | tail before move => exact ⟨_, t', ⟨t₀, fresh, before⟩, move⟩

theorem repeated_wavering :
    ∃ t, Run Script.source waveringMarks t ∧ Repeated Script.source waveringMarks t := by
  obtain ⟨t, _, run, -⟩ := wavering_run
  exact ⟨t, run, run.repeated⟩

/-- A node that is asked twice has an error and yet other names than before. -/
theorem not_kept_wavering :
    ∃ t t', Run Script.source waveringMarks t ∧ Move Script.source t waveringEnd t' ∧
      ¬ KnownNames.Keeps t.store.knownNames (results wavering) t'.store.knownNames := by
  obtain ⟨t, t', run, move⟩ := wavering_run
  refine ⟨t, t', run, move, fun keeps => ?_⟩
  rw [knownNames_of_listing run.announced.1,
    knownNames_of_listing (run.tail move).announced.1] at keeps
  have same := keeps.failed "a" ⟨.network, "down"⟩ (by decide)
  revert same
  decide

end Timeline

end MetricWatch
