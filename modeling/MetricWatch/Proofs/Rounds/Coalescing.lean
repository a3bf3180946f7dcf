import MetricWatch.Proofs.Rounds.Callers
import MetricWatch.Proofs.Rounds.Reach
import MetricWatch.Timeline.Script

/-!
# Coalescing

Callers share rounds: while a round is in its slot nobody starts another one of its kind, and all
who called for it get what it brought. The main statement is `Run.coalesced`.
-/

namespace MetricWatch

open Timeline

/-- Whether a mark admits someone to a round of a kind. -/
def Mark.admits (kind : RoundKind) : Mark → Bool
  | .joined _ k _ => k = kind
  | .started _ k _ _ => k = kind
  | _ => false

/-- There are no more rounds than admitted calls. -/
lemma length_starts_le (kind : RoundKind) (marks : List Mark) :
    (starts kind marks).length ≤ marks.countP (Mark.admits kind) := by
  rw [starts, List.length_filterMap_eq_countP]
  refine List.countP_mono_left fun m _ starting => ?_
  cases m with
  | started who k round items =>
    by_cases same : k = kind
    · simpa [Mark.admits] using same
    · simp [Mark.start?, same] at starting
  | _ => simp [Mark.start?] at starting

namespace Timeline

variable {σ : Type} {S : Source σ} {t t' : Timeline σ} {marks : List Mark} {w w' : Work} {m : Mark}

/-! ### Calls in front -/

/-- Admission does not depend on who is in the slots. -/
lemma items?_occupy (s : Store) (kind : RoundKind) :
    (s.occupy kind).items? kind = s.items? kind := by cases kind <;> rfl

/-- Whoever calls next meets the same. -/
lemma CallWork.again {kind : RoundKind} {met met' : Option (Admission × List String)}
    {round round' : Option Nat} {w'' : Work} (first : CallWork w kind met round w')
    (next : CallWork w' kind met' round' w'') : round' = round := by
  cases first with
  | declined refused =>
    cases next with
    | declined => rfl
    | joined admitted | started admitted =>
      rw [refused] at admitted
      cases admitted
  | joined admitted occupied =>
    cases next with
    | declined refused =>
      rw [refused] at admitted
      cases admitted
    | joined _ occupied' => exact occupied'.symm.trans occupied
    | started _ vacant =>
      rw [vacant] at occupied
      cases occupied
  | started admitted vacant =>
    have occupied := Store.occupant_occupy vacant kind
    rw [if_pos rfl] at occupied
    cases next with
    | declined refused =>
      rw [Work.store_start, items?_occupy, admitted] at refused
      cases refused
    | joined _ occupied' =>
      rw [Work.store_start, occupied] at occupied'
      exact occupied'.symm
    | started _ vacant' =>
      rw [Work.store_start, occupied] at vacant'
      cases vacant'

/-- All who call at once meet the same. -/
lemma callTimes_met (t : Timeline σ) (kind : RoundKind) (n : Nat) :
    (callTimes kind n t).1 = List.replicate n (t.call kind).1 := by
  induction n generalizing t with
  | zero => rfl
  | succ n ih =>
    have again := (t.work_call kind).again ((t.call kind).2.work_call kind)
    rw [List.replicate_succ, callTimes]
    exact congrArg (_ :: ·) ((ih _).trans (congrArg _ again))

/-- Those who wait in front get nothing, or all get what the round brought that they met. -/
lemma callInFront_results {kind : RoundKind} {n : Nat} {results : List CallResult}
    (arrived : t.callInFront S kind n = (some results, t')) :
    results.length = n ∧
      (((t.call kind).1 = none ∧ ∀ result ∈ results, result = notAdmitted kind) ∨
        ∃ round, (t.call kind).1 = some round ∧
          ∀ result ∈ results, t'.result? kind round = some result) := by
  have met := callTimes_met t kind n
  let allOver (after : Timeline σ) : Bool := (callTimes kind n t).1.all (after.isOver kind)
  let after := (callTimes kind n t).2.waitUntil S allOver patience
  have meaning : t.callInFront S kind n
      = if after.1 then
          (some ((callTimes kind n t).1.map (after.2.resultOf kind)),
            ((callTimes kind n t).1.filterMap id).foldl (fun t round => (t.see kind round).2)
              after.2)
        else (none, after.2) := rfl
  rw [meaning] at arrived
  split at arrived
  · next waited =>
    -- They stop waiting only when all that they met is over.
    have isOver : allOver after.2 = true := waitWithin_holds _ _ _ _ _ waited
    obtain ⟨taken, seen⟩ := Prod.mk.inj arrived
    obtain rfl := Option.some.inj taken
    have same (round : Nat) : t'.result? kind round = after.2.result? kind round := by
      rw [← seen]
      exact congrArg (fun w : Work => w.store.result? kind round) (work_seeAll ..)
    refine ⟨by simp [met], ?_⟩
    cases meets : (t.call kind).1 with
    | none =>
      refine .inl ⟨rfl, fun result mem => ?_⟩
      obtain ⟨own, isMet, rfl⟩ := List.mem_map.mp mem
      rw [met, meets] at isMet
      rw [List.eq_of_mem_replicate isMet]
      rfl
    | some round =>
      refine .inr ⟨round, rfl, fun result mem => ?_⟩
      obtain ⟨own, isMet, rfl⟩ := List.mem_map.mp mem
      have ended := List.all_eq_true.mp isOver own isMet
      rw [met, meets] at isMet
      rw [List.eq_of_mem_replicate isMet] at ended ⊢
      obtain ⟨result, ended⟩ := Option.isSome_iff_exists.mp ended
      simp [same, resultOf, ended]
  · cases arrived

/-! ### Callers in the background -/

/-- A caller that waits for a round which has ended takes what it brought when it goes on. -/
lemma stepCaller_of_ended (run : Run S marks t) {c : Caller} (isThere : c ∈ t.callers)
    {round : Nat} (waiting : c.stage = .waiting round) {result : CallResult}
    (ended : t.result? c.kind round = some result) :
    { c with stage := .finished result } ∈ (t.stepCaller c.id).callers := by
  have found : t.callers.find? (fun c' => c'.id = c.id) = some c :=
    run.attended.find?_caller isThere
  have callers : (t.see c.kind round).2.callers = t.callers :=
    congrArg Work.callers (t.work_see c.kind round)
  simp only [stepCaller, found, waiting, lookAt, ended, Timeline.setCaller, callers]
  exact List.mem_map.mpr ⟨c, isThere, by simp⟩

/-! ### The main statement -/

/-- How rounds are shared among callers. -/
structure Coalesced (S : Source σ) (marks : List Mark) (t : Timeline σ) : Prop where
  /-- At most one fetch of a kind is unfinished, -/
  single : ∀ kind, (t.work.fetchesOf kind).length ≤ 1
  /-- its round is the one in the slot, -/
  inSlot : ∀ f ∈ t.fetches, t.store.occupant f.kind = some f.round
  /-- and the rounds that are fetched are those that started and did not end. -/
  unfinished : ∀ kind round, (∃ f ∈ t.fetches, f.kind = kind ∧ f.round = round)
    ↔ round ∈ (starts kind marks).map Prod.fst ∧ round ∉ (ends kind marks).map Prod.fst
  /-- A round starts only when the slot is free and no fetch of its kind is unfinished. -/
  startsFree : ∀ {who kind round items t'}, Move S t (.started who kind round items) t' →
    t.store.occupant kind = none ∧ t.work.fetchesOf kind = [] ∧
      t'.store.occupant kind = some round
  /-- Rounds are numbered upwards. -/
  upwards : ∀ kind, ((starts kind marks).map Prod.fst).Pairwise (· > ·)
  /-- A round that ends is still in its slot, and nothing happens to the other slot. -/
  endsOwn : ∀ {kind round time g result t'}, Move S t (.ended kind round time g result) t' →
    t.store.occupant kind = some round ∧
      ∀ other, other ≠ kind → t'.store.occupant other = t.store.occupant other
  /-- What those get who wait for a round is settled by its end, -/
  settled : ∀ kind round result, t.result? kind round = some result
    ↔ ∃ time g, .ended kind round time g result ∈ marks
  /-- for callers in the background, who wait for their round until they have this or give up, -/
  received : ∀ id kind round, (kind, round) ∈ admissions (some id) marks →
    ∃ c ∈ t.callers, c.id = id ∧ c.kind = kind ∧
      (c.stage = .waiting round ∨ c.stage = .aborted ∨
        ∃ result, c.stage = .finished result ∧ t.result? kind round = some result)
  /-- take it as soon as they go on, -/
  taken : ∀ c ∈ t.callers, ∀ {round result}, c.stage = .waiting round →
    t.result? c.kind round = some result →
      { c with stage := .finished result } ∈ (t.stepCaller c.id).callers
  /-- and for all who wait in front at once. -/
  inFront : ∀ {kind n results t'}, t.callInFront S kind n = (some results, t') →
    results.length = n ∧
      (((t.call kind).1 = none ∧ ∀ result ∈ results, result = notAdmitted kind) ∨
        ∃ round, (t.call kind).1 = some round ∧
          ∀ result ∈ results, t'.result? kind round = some result)
  /-- A list round asks for metrics at most once, and nothing else asks for metrics. -/
  askedOnce : ((requests .list marks).map Prod.fst).Pairwise (· > ·) ∧
    t.questions.filterMap (fun q => q.2.metrics?) = (requests .list marks).map Prod.snd
  /-- There are no more rounds than admitted calls. -/
  fewRounds : ∀ kind, (starts kind marks).length ≤ marks.countP (Mark.admits kind)

/-- Rounds are coalesced all along a run. -/
theorem Run.coalesced (run : Run S marks t) : Coalesced S marks t where
  single kind := (run.orderly.phase kind).length_fetches_le
  inSlot f isThere := (run.orderly.phase f.kind).occupant_of_mem (Work.mem_fetchesOf.mpr isThere)
  unfinished kind round := by
    refine Iff.trans ?_
      ((run.orderly.phase kind).isFetched_iff (run.orderly.decreasing kind) round)
    constructor
    · rintro ⟨f, isThere, rfl, rfl⟩
      exact ⟨f, Work.mem_fetchesOf.mpr isThere, rfl⟩
    · rintro ⟨f, mem, rfl⟩
      obtain ⟨isThere, ofKind⟩ := List.mem_filter.mp mem
      exact ⟨f, isThere, of_decide_eq_true ofKind, rfl⟩
  startsFree {who kind round items t'} move := by
    obtain ⟨-, vacant, rfl, work⟩ := move.of_started
    have occupied := Store.occupant_occupy vacant kind
    rw [if_pos rfl] at occupied
    have store : t'.store = t.store.occupy kind := by
      rw [show t'.store = t'.work.store from rfl, work, Work.store_tell, Work.store_start]
      rfl
    refine ⟨vacant, (run.orderly.phase kind).fetches_of_vacant vacant, ?_⟩
    rw [store, occupied]
  upwards := run.orderly.decreasing
  endsOwn {kind round time g result t'} move := by
    obtain ⟨-, f, isThere, rfl, rfl, asked, -, work⟩ := move.of_ended
    obtain ⟨occupied, ofKind, -⟩ := run.orderly.answered isThere asked
    refine ⟨occupied, fun other ne => ?_⟩
    rw [show t'.store = t'.work.store from rfl, work, Work.store_finish, occupant_conclude, ofKind,
      if_neg fun own => ne own.1.symm]
    rfl
  settled := run.orderly.result?_iff
  received id kind round admitted := by
    by_cases isThere : ∃ c ∈ t.callers, c.id = id
    · obtain ⟨c, isThere, rfl⟩ := isThere
      have attendance := run.attended.attendance c isThere
      generalize admissions (some c.id) marks = rounds at admitted attendance
      cases attendance with
      | begun | declined => cases admitted
      | waiting stage =>
        obtain ⟨rfl, rfl⟩ := Prod.mk.inj (List.mem_singleton.mp admitted)
        exact ⟨c, isThere, rfl, rfl, .inl stage⟩
      | served stage ended =>
        obtain ⟨rfl, rfl⟩ := Prod.mk.inj (List.mem_singleton.mp admitted)
        exact ⟨c, isThere, rfl, rfl, .inr (.inr ⟨_, stage, ended⟩)⟩
      | abandoned stage own =>
        exact ⟨c, isThere, rfl, (own _ admitted).symm, .inr (.inl stage)⟩
    · have never := run.attended.strangers id fun c mem same => isThere ⟨c, mem, same⟩
      rw [never] at admitted
      cases admitted
  taken _ isThere _ _ waiting ended := stepCaller_of_ended run isThere waiting ended
  inFront arrived := callInFront_results arrived
  askedOnce := by
    refine ⟨?_, run.orderly.questions⟩
    have suffix := ((run.orderly.phase .list).requests_suffix.map Prod.fst).sublist
    exact (run.orderly.decreasing .list).sublist suffix
  fewRounds kind := length_starts_le kind marks

/-- A store of someone who is logged in, before any round. -/
def sharedStore : Store :=
  .fresh ⟨some "token"⟩ .unknown Store.defaultNamespace Store.defaultCapacity

/-- The record of a round that two callers share and whose question brings a reply. -/
def sharedMarks (reply : Reply ClusterAnswer) : List Mark :=
  [.ended .list 0 0 (.list reply) (ending sharedStore 0 0 (.list reply)),
    .asked .list 0 ["m"] (.list reply), .joined (some 1) .list 0,
    .started (some 0) .list 0 ["m"], .aside, .aside, .chore (.addGlobal "m")]

lemma shared_run (reply : Reply ClusterAnswer) :
    ∃ t, Run Script.source (sharedMarks reply) t := by
  have registered := Path.single (S := Script.source)
    (.chore (start sharedStore { metrics := [reply] }) (.addGlobal "m"))
  have spawned := (registered.tail (.spawn _ .list)).tail (.spawn _ .list)
  have started := spawned.tail (.call (some 0) .list (by
    rintro _ ⟨⟩
    exact ⟨_, .head _, rfl, rfl, rfl⟩))
  have joined := started.tail (.call (some 1) .list (by
    rintro _ ⟨⟩
    exact ⟨_, .tail _ (.head _), rfl, rfl, rfl⟩))
  have asked := joined.tail (.ask (.head _) rfl)
  have ended := asked.tail (.finish (.head _) rfl)
  exact ⟨_, _, ⟨_, _, _, _, _, rfl⟩, ended⟩

theorem coalesced_shared :
    ∃ t, Run Script.source (sharedMarks (.ok (Script.plainAnswer ["m"]))) t ∧
      Coalesced Script.source (sharedMarks (.ok (Script.plainAnswer ["m"]))) t := by
  obtain ⟨t, run⟩ := shared_run (.ok (Script.plainAnswer ["m"]))
  exact ⟨t, run, run.coalesced⟩

end Timeline

end MetricWatch
