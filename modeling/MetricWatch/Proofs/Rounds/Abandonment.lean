import MetricWatch.Proofs.Rounds.Coalescing
import Mathlib.Data.List.Forall2

/-!
# Abandonment

A caller that gives up after it was admitted takes nothing along. The run in which it gives up and
the run in which it does not go on side by side: the source is asked the same, rounds start and end
alike, and everyone else gets the same. The main statement is `Path.undisturbed`.
-/

namespace MetricWatch

open Timeline

/-! ### What marks do to callers -/

/-- A caller that gives up, unless it has its result. -/
def Caller.giveUp (c : Caller) : Caller :=
  match c.stage with
  | .finished _ => c
  | _ => { c with stage := .aborted }

namespace Caller

variable {c : Caller}

@[simp] lemma id_giveUp (c : Caller) : c.giveUp.id = c.id := by
  unfold giveUp
  split <;> rfl

lemma giveUp_of_finished {result : CallResult} (stage : c.stage = .finished result) :
    c.giveUp = c := by
  simp [giveUp, stage]

lemma giveUp_of_unfinished (stage : ∀ result, c.stage ≠ .finished result) :
    c.giveUp = { c with stage := .aborted } := by
  unfold giveUp
  split
  · next result finished => exact absurd finished (stage result)
  · rfl

end Caller

namespace Mark

/-- The caller in the background that goes on of its own, and the stage to which it goes on. -/
def goesOn? : Mark → Option (Nat × CallerStage)
  | .declined who kind => who.map (·, .finished (notAdmitted kind))
  | .joined who _ round => who.map (·, .waiting round)
  | .started who _ round _ => who.map (·, .waiting round)
  | .served id _ _ result => some (id, .finished result)
  | _ => none

/-- What becomes of a caller when a move leaves a mark. -/
def act (m : Mark) (c : Caller) : Caller :=
  match m with
  | .abandoned id => if c.id = id then c.giveUp else c
  | m =>
    match m.goesOn? with
    | some (id, stage) => if c.id = id then { c with stage := stage } else c
    | none => c

/-- Whether one of these callers takes what its round brought. -/
def serves (callers : List Nat) : Mark → Bool
  | .served id _ _ _ => id ∈ callers
  | _ => false

/-- Whether someone gives up. -/
def isAbandonment : Mark → Bool
  | .abandoned _ => true
  | _ => false

lemma goesOn?_ofCall (who : Option Nat) (kind : RoundKind)
    (met : Option (Admission × List String)) :
    ∃ stage, (ofCall who kind met).goesOn? = who.map (·, stage) := by
  rcases met with - | ⟨round | round, items⟩ <;> exact ⟨_, rfl⟩

end Mark

namespace Timeline

variable {σ : Type} {S : Source σ} {t₀ t t' t₁ t₁' u : Timeline σ} {marks marks' : List Mark}
  {m : Mark} {gone : List Nat} {w w' : Work} {c c' : Caller} {id : Nat} {stage : CallerStage}

/-- Of the callers in the background a move changes the one that goes on or gives up, or it brings
another one. -/
lemma Change.callers (change : Change w m w') : w'.callers = w.callers.map m.act ∨
    ∃ kind, m = .aside ∧ w'.callers = w.callers ++ [⟨w.callers.length, kind, .begun⟩] := by
  have told (who : Option Nat) (stage : CallerStage) (w : Work) :
      (w.tell who stage).callers = w.callers.map fun c => match who.map (·, stage) with
        | some (id, stage) => if c.id = id then { c with stage := stage } else c
        | none => c := by
    cases who with
    | none => exact (List.map_id _).symm
    | some id => rfl
  cases change with
  | declined | joined | started => exact .inl (told ..)
  | served => exact .inl rfl
  | abandoned id => exact .inl rfl
  | spawned kind => exact .inr ⟨kind, rfl, rfl⟩
  | asked | delayed | ended | chore | aside => exact .inl (List.map_id _).symm

/-- Whoever goes on was about to call, or takes what its round brought. -/
lemma Change.goesOn (change : Change w m w') (goes : m.goesOn? = some (id, stage)) :
    ∃ c ∈ w.callers, c.id = id ∧ (c.stage = .begun ∨
      ∃ round result, c.stage = .waiting round ∧ m = .served id c.kind round result) := by
  have caller {who : Option Nat} {kind : RoundKind} {other : CallerStage}
      (mayCall : w.MayCall who kind) (goes : who.map (·, other) = some (id, stage)) :
      ∃ c ∈ w.callers, c.id = id ∧ (c.stage = .begun ∨
        ∃ round result, c.stage = .waiting round ∧ m = .served id c.kind round result) := by
    obtain ⟨_, rfl, same⟩ := Option.map_eq_some_iff.mp goes
    obtain ⟨rfl, -⟩ := Prod.mk.inj same
    obtain ⟨c, isThere, own, -, begun⟩ := mayCall _ rfl
    exact ⟨c, isThere, own, .inl begun⟩
  cases change with
  | declined mayCall | joined mayCall | started mayCall => exact caller mayCall goes
  | served isThere waiting =>
    obtain ⟨rfl, -⟩ := Prod.mk.inj (Option.some.inj goes)
    exact ⟨_, isThere, rfl, .inr ⟨_, _, waiting, rfl⟩⟩
  | spawned | abandoned | asked | delayed | ended | chore | aside => cases goes

/-! ### What callers have no hand in -/

/-- A timeline with other callers in the background, other tasks ready and other ends unseen. -/
def besides (t : Timeline σ) (callers : List Caller) (ready : List TaskId)
    (unseen : List (RoundKind × Nat)) : Timeline σ :=
  { t with callers := callers, ready := ready, unseen := unseen }

/-- A timeline apart from those who wait on it. -/
def shared (t : Timeline σ) : Timeline σ := t.besides [] [] []

section

variable (t : Timeline σ) (callers : List Caller) (ready : List TaskId)
  (unseen : List (RoundKind × Nat))

lemma exists_besides (same : u.shared = t.shared) :
    u = t.besides u.callers u.ready u.unseen := by
  cases t
  cases u
  simpa [shared, besides] using same

@[simp] lemma shared_wake (task : TaskId) : (t.wake task).shared = t.shared := by
  rw [wake_eq]
  rfl

lemma noteAll_besides (notes : List Note) :
    (t.besides callers ready unseen).noteAll notes
      = (t.noteAll notes).besides callers ready unseen := by
  rw [noteAll_eq, noteAll_eq]
  rfl

lemma call_besides (kind : RoundKind) :
    ((t.besides callers ready unseen).call kind).1 = (t.call kind).1 ∧
      ((t.besides callers ready unseen).call kind).2.shared = (t.call kind).2.shared := by
  have store : (t.besides callers ready unseen).store = t.store := rfl
  unfold Timeline.call
  rw [store]
  obtain ⟨met, after⟩ := t.store.call kind
  rcases met with - | ⟨round | round, items⟩
  · cases kind <;> exact ⟨rfl, rfl⟩
  · refine ⟨rfl, ?_⟩
    simp only [shared_wake]
    rfl
  · exact ⟨rfl, rfl⟩

lemma afterNode_besides (S : Source σ) (node : String) :
    (t.besides callers ready unseen).afterNode S node
      = (t.afterNode S node).besides callers ready unseen :=
  noteAll_besides { t with
    source := _
    questions := _ } ..

lemma askNames_besides (S : Source σ) (items : List String) :
    askNames S items (t.besides callers ready unseen)
      = ((askNames S items t).1, (askNames S items t).2.besides callers ready unseen) := by
  induction items generalizing t with
  | nil => rfl
  | cons node rest ih =>
    have opened : ((t.afterNode S node).besides callers ready unseen).namesOpen
        = (t.afterNode S node).namesOpen := rfl
    have answer : (t.besides callers ready unseen).nodeAnswer S node = t.nodeAnswer S node := rfl
    simp only [askNames_cons, answer, afterNode_besides, ih, opened]
    by_cases atOnce : (t.afterNode S node).namesOpen ∧ (t.nodeAnswer S node).delay = 0
    · simp only [if_pos atOnce]
      split <;> rfl
    · simp only [if_neg atOnce]
      split <;> rfl

lemma ask_besides (S : Source σ) (kind : RoundKind) (items : List String) :
    ask S (t.besides callers ready unseen) kind items
      = ((ask S t kind items).1, (ask S t kind items).2.1, (ask S t kind items).2.2.1,
        (ask S t kind items).2.2.2.besides callers ready unseen) := by
  cases kind with
  | list =>
    simp only [ask, askMetrics]
    rw [← noteAll_besides]
    rfl
  | names =>
    simp only [ask, askNames_besides]

lemma endRound_besides (kind : RoundKind) (round : Nat) (g : Gathered) :
    ((t.besides callers ready unseen).endRound kind round g).shared
      = (t.endRound kind round g).shared := by
  simp only [endRound, wakeAll_eq, noteAll_eq]
  rfl

end

/-! ### The same move twice -/

/-- What a mark says of the callers of two timelines that make the same move. -/
def Abreast (m : Mark) (t t₁ u u₁ : Timeline σ) : Prop :=
  (t₁.callers = t.callers.map m.act ∧ u₁.callers = u.callers.map m.act) ∨
    ∃ kind, t₁.callers = t.callers ++ [⟨t.callers.length, kind, .begun⟩] ∧
      u₁.callers = u.callers ++ [⟨u.callers.length, kind, .begun⟩]

/-- Two moves with a mark that only moves of one sort leave treat callers alike. -/
lemma Abreast.of_moves {u₁ : Timeline σ} (move : Move S t m t₁) (move' : Move S u m u₁)
    (notAside : m ≠ .aside) : Abreast m t t₁ u u₁ := by
  rcases move.change.callers with acted | ⟨_, aside, _⟩
  · rcases move'.change.callers with acted' | ⟨_, aside, _⟩
    · exact .inl ⟨acted, acted'⟩
    · exact absurd aside notAside
  · exact absurd aside notAside

/-- A move can be made again wherever nothing is different but the callers, as long as the one that
goes on is there. -/
lemma Move.again (move : Move S t m t₁) (same : u.shared = t.shared)
    (present : ∀ id stage, m.goesOn? = some (id, stage) →
      ∀ c ∈ t.callers, c.id = id → c ∈ u.callers) :
    ∃ u₁, Move S u m u₁ ∧ u₁.shared = t₁.shared ∧ Abreast m t t₁ u u₁ := by
  obtain isBesides := exists_besides t same
  generalize u.callers = callers, u.ready = ready, u.unseen = unseen at present isBesides
  subst isBesides
  have original := move
  -- All moves but those aside are told from one another by their marks.
  have again {u₁ : Timeline σ} (move' : Move S (t.besides callers ready unseen) m u₁)
      (shared : u₁.shared = t₁.shared) (notAside : m ≠ .aside) :
      ∃ u₁, Move S (t.besides callers ready unseen) m u₁ ∧ u₁.shared = t₁.shared ∧
        Abreast m t t₁ (t.besides callers ready unseen) u₁ :=
    ⟨u₁, move', shared, .of_moves original move' notAside⟩
  cases move with
  | call who kind mayCall =>
    obtain ⟨met, shared⟩ := t.call_besides callers ready unseen kind
    refine again (.call who kind ?_) ?_ ?_
    · rintro id rfl
      obtain ⟨c, isThere, own, rest⟩ := mayCall id rfl
      obtain ⟨stage, goesOn⟩ := Mark.goesOn?_ofCall (some id) kind (t.store.call kind).1
      exact ⟨c, present id stage goesOn c isThere own, own, rest⟩
    · rw [met]
      cases who <;> exact shared
    · intro aside
      cases (congrArg Mark.isCall aside).symm.trans (Mark.isCall_ofCall ..)
  | serve isThere waiting ended =>
    exact again (.serve (present _ _ rfl _ isThere rfl) waiting ended) rfl (by rintro ⟨⟩)
  | spawn kind =>
    refine ⟨_, .spawn _ kind, ?_, .inr ⟨kind, ?_, ?_⟩⟩
    · simp only [Timeline.spawn, shared_wake]
      rfl
    · exact congrArg Work.callers (work_spawn t kind)
    · exact congrArg Work.callers (work_spawn _ kind)
  | abandon id => exact again (.abandon _ id) rfl (by rintro ⟨⟩)
  | @ask f items isThere begun =>
    have move' := Move.ask (S := S) (t := t.besides callers ready unseen) isThere begun
    rw [ask_besides] at move'
    exact again move' rfl (by rintro ⟨⟩)
  | delay isThere asked until_ =>
    exact ⟨_, .delay (t := t.besides callers ready unseen) isThere asked until_, rfl,
      .inl ⟨(List.map_id _).symm, (List.map_id _).symm⟩⟩
  | @finish f g isThere asked =>
    exact again (.finish (t := t.besides callers ready unseen) isThere asked)
      (t.endRound_besides callers ready unseen f.kind f.round g) (by rintro ⟨⟩)
  | chore c => exact again (.chore _ c) rfl (by rintro ⟨⟩)
  | @aside t₁ same =>
    have stay : t₁.callers = t.callers := congrArg Work.callers same
    refine ⟨t₁.besides callers t₁.ready t₁.unseen, .aside ?_, rfl,
      .inl ⟨stay.trans (List.map_id _).symm, (List.map_id _).symm⟩⟩
    exact congrArg (fun w : Work => { w with callers := callers }) same

/-! ### Callers that left -/

lemma exists_of_forall₂ {α β : Type} {R : α → β → Prop} {l : List α} {l' : List β}
    (h : List.Forall₂ R l l') {a : α} (mem : a ∈ l) : ∃ b ∈ l', R a b := by
  induction h with
  | nil => cases mem
  | cons related _ ih =>
    rcases List.mem_cons.mp mem with rfl | mem
    · exact ⟨_, List.mem_cons_self, related⟩
    · obtain ⟨b, isThere, related⟩ := ih mem
      exact ⟨b, List.mem_cons_of_mem _ isThere, related⟩

/-- A caller and what it is where some have left. -/
inductive Parted (gone : List Nat) : Caller → Caller → Prop
  | stayed {c : Caller} (isHere : c.id ∉ gone) : Parted gone c c
  | served {c : Caller} {result : CallResult} (stage : c.stage = .finished result) :
      Parted gone c c
  | left {c : Caller} (isGone : c.id ∈ gone) (admitted : c.stage ≠ .begun) :
      Parted gone c { c with stage := .aborted }

namespace Parted

lemma id_eq (h : Parted gone c c') : c'.id = c.id := by cases h <;> rfl

lemma eq_of_here (h : Parted gone c c') (isHere : c.id ∉ gone) : c' = c := by
  cases h with
  | stayed | served => rfl
  | left isGone => exact absurd isGone isHere

/-- Nobody leaves before having been admitted. -/
lemma here_of_begun (h : Parted gone c c') (begun : c.stage = .begun) : c.id ∉ gone := by
  cases h with
  | stayed isHere => exact isHere
  | served stage =>
    rw [begun] at stage
    cases stage
  | left _ admitted => exact absurd begun admitted

/-- Whoever left neither calls nor waits. -/
lemma here_of_active (h : Parted gone c c')
    (active : c'.stage = .begun ∨ ∃ round, c'.stage = .waiting round) : c.id ∉ gone := by
  cases h with
  | stayed isHere => exact isHere
  | served stage =>
    rw [stage] at active
    obtain begun | ⟨round, waiting⟩ := active
    · cases begun
    · cases waiting
  | left =>
    obtain begun | ⟨round, waiting⟩ := active
    · cases begun
    · cases waiting

lemma giveUp (h : Parted gone c c') : Parted gone c.giveUp c'.giveUp := by
  cases h with
  | stayed isHere => exact .stayed (by simpa using isHere)
  | served stage =>
    rw [Caller.giveUp_of_finished stage]
    exact .served stage
  | left isGone admitted =>
    cases stage : c.stage with
    | begun => exact absurd stage admitted
    | finished result =>
      rw [Caller.giveUp_of_finished stage]
      exact .left isGone admitted
    | waiting | aborted =>
      rw [Caller.giveUp_of_unfinished (by simp [stage])]
      exact .left (c := { c with stage := .aborted }) isGone (by rintro ⟨⟩)

/-- A move in which nobody goes on that left leaves the callers as different as they are. -/
lemma act (h : Parted gone c c') (isHere : ∀ id stage, m.goesOn? = some (id, stage) → id ∉ gone) :
    Parted gone (m.act c) (m.act c') := by
  unfold Mark.act
  split
  · rw [h.id_eq]
    split
    · exact h.giveUp
    · exact h
  · cases goes : m.goesOn? with
    | none => exact h
    | some own =>
      obtain ⟨id, stage⟩ := own
      dsimp only
      rw [h.id_eq]
      split
      next same =>
        have here := isHere id stage goes
        rw [← same] at here
        rw [h.eq_of_here here]
        exact .stayed here
      next => exact h

/-- A caller that was admitted leaves. -/
lemma leave (h : Parted gone c c') (admitted : c.stage ≠ .begun) :
    Parted (c.id :: gone) c c'.giveUp := by
  have isGone : c.id ∈ c.id :: gone := List.mem_cons_self
  cases h with
  | left => exact .left isGone admitted
  | stayed | served =>
    cases stage : c.stage with
    | begun => exact absurd stage admitted
    | finished result =>
      rw [Caller.giveUp_of_finished stage]
      exact .served stage
    | waiting | aborted =>
      rw [Caller.giveUp_of_unfinished (by simp [stage])]
      exact .left isGone admitted

lemma leave_other (h : Parted gone c c') (other : c.id ≠ id) : Parted (id :: gone) c c' := by
  cases h with
  | stayed isHere => exact .stayed (by simp [other, isHere])
  | served stage => exact .served stage
  | left isGone admitted => exact .left (List.mem_cons_of_mem _ isGone) admitted

/-- Where a caller left it does not take what it would get. -/
lemma miss (h : Parted gone c c') (isGone : c.id ∈ gone) {round : Nat}
    (waiting : c.stage = .waiting round) (result : CallResult) :
    Parted gone { c with stage := .finished result } c' := by
  cases h with
  | stayed isHere => exact absurd isGone isHere
  | served stage =>
    rw [waiting] at stage
    cases stage
  | left => exact .left (c := { c with stage := .finished result }) isGone (by rintro ⟨⟩)

end Parted

/-- Two timelines that differ only in callers that left in the second. -/
structure Apart (gone : List Nat) (t t' : Timeline σ) : Prop where
  shared : t'.shared = t.shared
  callers : List.Forall₂ (Parted gone) t.callers t'.callers
  known : ∀ id ∈ gone, id < t.callers.length

namespace Apart

lemma refl (t : Timeline σ) : Apart [] t t :=
  ⟨rfl, List.forall₂_same.mpr fun _ _ => .stayed List.not_mem_nil, by simp⟩

lemma abreast (h : Apart gone t t') (shared : t₁'.shared = t₁.shared)
    (abreast : Abreast m t t₁ t' t₁')
    (isHere : ∀ id stage, m.goesOn? = some (id, stage) → id ∉ gone) : Apart gone t₁ t₁' := by
  rcases abreast with ⟨acted, acted'⟩ | ⟨kind, joined, joined'⟩
  · refine ⟨shared, ?_, ?_⟩
    · rw [acted, acted', List.forall₂_map_left_iff, List.forall₂_map_right_iff]
      exact h.callers.imp fun _ _ parted => parted.act isHere
    · rw [acted, List.length_map]
      exact h.known
  · have length : t'.callers.length = t.callers.length := h.callers.length_eq.symm
    refine ⟨shared, ?_, ?_⟩
    · rw [joined, joined', length]
      refine List.rel_append h.callers (.cons (.stayed fun isGone => ?_) .nil)
      exact Nat.lt_irrefl _ (h.known _ isGone)
    · intro id isGone
      rw [joined, List.length_append]
      exact Nat.lt_add_right _ (h.known id isGone)

/-- Where nobody gives up any more, what happens also happens where some have left, as long as
none of these takes anything. -/
lemma follow (h : Apart gone t t') (move : Move S t m t₁) (stays : m.serves gone = false) :
    ∃ t₁', Move S t' m t₁' ∧ Apart gone t₁ t₁' := by
  have isHere (id : Nat) (stage : CallerStage) (goes : m.goesOn? = some (id, stage)) :
      id ∉ gone := by
    obtain ⟨c, isThere, rfl, begun | ⟨round, result, _, rfl⟩⟩ := move.change.goesOn goes
    · obtain ⟨c', _, parted⟩ := exists_of_forall₂ h.callers isThere
      exact parted.here_of_begun begun
    · simpa [Mark.serves] using stays
  obtain ⟨t₁', move', shared, abreast⟩ := move.again h.shared fun id stage goes c isThere own => by
    obtain ⟨c', isThere', parted⟩ := exists_of_forall₂ h.callers isThere
    rw [← parted.eq_of_here (own ▸ isHere id stage goes)]
    exact isThere'
  exact ⟨t₁', move', h.abreast shared abreast isHere⟩

/-- What happens where some have left also happens where they stay. -/
lemma precede (h : Apart gone t t') (move : Move S t' m t₁') :
    m.serves gone = false ∧ ∃ t₁, Move S t m t₁ ∧ Apart gone t₁ t₁' := by
  have isHere (id : Nat) (stage : CallerStage) (goes : m.goesOn? = some (id, stage)) :
      id ∉ gone := by
    obtain ⟨c', isThere', rfl, active⟩ := move.change.goesOn goes
    obtain ⟨c, _, parted⟩ := exists_of_forall₂ h.callers.flip isThere'
    rw [parted.id_eq]
    refine parted.here_of_active (active.imp_right ?_)
    rintro ⟨round, _, waiting, -⟩
    exact ⟨round, waiting⟩
  obtain ⟨t₁, move', shared, abreast⟩ := move.again h.shared.symm
    fun id stage goes c' isThere' own => by
      obtain ⟨c, isThere, parted⟩ := exists_of_forall₂ h.callers.flip isThere'
      have same := parted.id_eq
      rw [parted.eq_of_here (by rw [← same, own]; exact isHere id stage goes)]
      exact isThere
  refine ⟨?_, t₁, move', h.abreast shared.symm ?_ isHere⟩
  · cases m with
    | served id kind round result => simpa [Mark.serves] using isHere id _ rfl
    | _ => rfl
  · exact abreast.imp And.symm fun ⟨kind, both⟩ => ⟨kind, both.symm⟩

/-- A caller that was admitted leaves. -/
lemma leave (h : Apart gone t t') (run : Run S marks t)
    (admitted : admissions (some id) marks ≠ []) : Apart (id :: gone) t (t'.abandon id) := by
  have attended := run.attended
  refine ⟨h.shared, ?_, ?_⟩
  · rw [show (t'.abandon id).callers = t'.callers.map (Mark.abandoned id).act from rfl,
      List.forall₂_map_right_iff, List.forall₂_iff_zip]
    obtain ⟨length, parted⟩ := List.forall₂_iff_zip.mp h.callers
    refine ⟨length, fun {c c'} pair => ?_⟩
    have parted := parted pair
    simp only [Mark.act, parted.id_eq]
    split
    next own =>
      rw [← own]
      refine parted.leave fun begun => admitted ?_
      rw [← own]
      exact (attended.attendance c (List.of_mem_zip pair).1).rounds_of_begun begun
    next other => exact parted.leave_other other
  · intro other isGone
    rcases List.mem_cons.mp isGone with rfl | isGone
    · by_contra notGiven
      refine admitted (attended.strangers other fun c isThere own => notGiven ?_)
      rw [← own]
      exact attended.given c isThere
    · exact h.known other isGone

/-- What a caller that left would have got is nothing to the others. -/
lemma miss (h : Apart gone t t') (attended : Attended marks t.work) {kind : RoundKind}
    {round : Nat} {result : CallResult} (move : Move S t (.served id kind round result) t₁)
    (isGone : id ∈ gone) : Apart gone t₁ t' := by
  generalize isServed : Mark.served id kind round result = m at move
  cases move with
  | call => cases (congrArg Mark.isCall isServed).trans (Mark.isCall_ofCall ..)
  | @serve c round' result' isThere waiting ended =>
    obtain ⟨rfl, rfl, rfl, rfl⟩ := Mark.served.inj isServed
    refine ⟨h.shared, ?_, ?_⟩
    · rw [show (t.setCaller c.id (.finished result)).callers = t.callers.map fun d =>
        if d.id = c.id then { d with stage := .finished result } else d from rfl,
        List.forall₂_map_left_iff, List.forall₂_iff_zip]
      obtain ⟨length, parted⟩ := List.forall₂_iff_zip.mp h.callers
      refine ⟨length, fun {d d'} pair => ?_⟩
      have parted := parted pair
      split
      next own =>
        obtain rfl := attended.unique d (List.of_mem_zip pair).1 c isThere own
        exact parted.miss isGone waiting result
      next => exact parted
    · rw [show (t.setCaller c.id (.finished result)).callers.length = t.callers.length by
        simp [Timeline.setCaller]]
      exact h.known
  | _ => cases isServed

end Apart

lemma Move.of_abandoned (move : Move S t (.abandoned id) t₁) : t₁ = t.abandon id := by
  generalize isLeft : Mark.abandoned id = m at move
  cases move with
  | call => cases (congrArg Mark.isCall isLeft).trans (Mark.isCall_ofCall ..)
  | abandon =>
    cases isLeft
    rfl
  | _ => cases isLeft

/-! ### Runs side by side -/

/-- What two timelines have in common of which some callers left the second. -/
structure Same (gone : List Nat) (t t' : Timeline σ) : Prop where
  /-- The source was asked the same, in the same order. -/
  questions : t'.questions = t.questions
  /-- The store is the same: its metrics and names, the events that were sent, the rounds in its
  slots, and what everyone gets who waits for a round. -/
  store : t'.store = t.store
  /-- All that runs on the store is the same but the callers, -/
  elsewhere : t'.shared = t.shared
  /-- and so are the callers that did not leave. -/
  others : t'.callers.filter (·.id ∉ gone) = t.callers.filter (·.id ∉ gone)

lemma Apart.same (h : Apart gone t t') : Same gone t t' where
  questions := (congrArg Timeline.questions h.shared :)
  store := (congrArg Timeline.store h.shared :)
  elsewhere := h.shared
  others := by
    have all := h.callers
    generalize t.callers = callers, t'.callers = callers' at all
    induction all with
    | nil => rfl
    | @cons c c' _ _ parted _ ih =>
      rw [List.filter_cons, List.filter_cons, parted.id_eq, ih]
      split
      next isHere => rw [parted.eq_of_here (of_decide_eq_true isHere)]
      next => rfl

/-- The record of a run in which some leave after they were admitted, against that of a run in
which they stay: whoever left takes nothing any more, and all else is the same. -/
inductive Deserted : List Nat → List Mark → List Mark → Prop
  | start : Deserted [] [] []
  | both {gone : List Nat} {marks marks' : List Mark} {m : Mark}
      (before : Deserted gone marks marks') (stays : m.serves gone = false) :
      Deserted gone (m :: marks) (m :: marks')
  | leave {gone : List Nat} {marks marks' : List Mark} {id : Nat}
      (before : Deserted gone marks marks') (admitted : admissions (some id) marks ≠ []) :
      Deserted (id :: gone) marks (.abandoned id :: marks')
  | missed {gone : List Nat} {marks marks' : List Mark} {m : Mark}
      (before : Deserted gone marks marks') (isMissed : m.serves gone = true) :
      Deserted gone (m :: marks) marks'

/-- Two runs from one beginning, in the second of which some leave. They are the same to everyone
else at every moment. -/
inductive SideBySide (S : Source σ) (t₀ : Timeline σ) :
    List Nat → List Mark → Timeline σ → List Mark → Timeline σ → Prop
  | start : SideBySide S t₀ [] [] t₀ [] t₀
  | both {gone : List Nat} {marks marks' : List Mark} {m : Mark} {t t' t₁ t₁' : Timeline σ}
      (before : SideBySide S t₀ gone marks t marks' t') (move : Move S t m t₁)
      (move' : Move S t' m t₁') (same : Same gone t₁ t₁') :
      SideBySide S t₀ gone (m :: marks) t₁ (m :: marks') t₁'
  | leave {gone : List Nat} {marks marks' : List Mark} {id : Nat} {t t' t₁' : Timeline σ}
      (before : SideBySide S t₀ gone marks t marks' t') (move' : Move S t' (.abandoned id) t₁')
      (same : Same (id :: gone) t t₁') :
      SideBySide S t₀ (id :: gone) marks t (.abandoned id :: marks') t₁'
  | missed {gone : List Nat} {marks marks' : List Mark} {m : Mark} {t t' t₁ : Timeline σ}
      (before : SideBySide S t₀ gone marks t marks' t') (isMissed : m.serves gone = true)
      (move : Move S t m t₁) (same : Same gone t₁ t') :
      SideBySide S t₀ gone (m :: marks) t₁ marks' t'

/-- Some may leave a run at any time after they were admitted. -/
lemma Deserted.sideBySide (deserted : Deserted gone marks marks') (fresh : t₀.IsFresh)
    (path : Path S t₀ marks t) : ∃ t', Path S t₀ marks' t' ∧ Apart gone t t' ∧
      SideBySide S t₀ gone marks t marks' t' := by
  -- The induction is on how the records pair up; what carries it is that the timelines are apart
  -- only by those who left.
  induction deserted generalizing t with
  | start =>
    cases path
    exact ⟨t₀, .refl, .refl t₀, .start⟩
  | both _ stays ih =>
    obtain _ | ⟨path, move⟩ := path
    obtain ⟨t', path', apart, beside⟩ := ih path
    obtain ⟨t₁', move', apart⟩ := apart.follow move stays
    exact ⟨t₁', path'.tail move', apart, beside.both move move' apart.same⟩
  | leave _ admitted ih =>
    obtain ⟨t', path', apart, beside⟩ := ih path
    have apart := apart.leave ⟨t₀, fresh, path⟩ admitted
    exact ⟨_, path'.tail (.abandon t' _), apart, beside.leave (.abandon t' _) apart.same⟩
  | @missed gone _ _ m _ isMissed ih =>
    obtain _ | ⟨path, move⟩ := path
    obtain ⟨t', path', apart, beside⟩ := ih path
    have apart : Apart gone t t' := by
      cases m with
      | served =>
        exact apart.miss (Run.attended ⟨t₀, fresh, path⟩) move (of_decide_eq_true isMissed)
      | _ => cases isMissed
    exact ⟨t', path', apart, beside.missed isMissed move apart.same⟩

lemma admissions_stay (id : Nat) (marks : List Mark) :
    admissions (some id) (marks.filter (!·.isAbandonment)) = admissions (some id) marks := by
  rw [admissions, List.filterMap_filter]
  congr 1
  funext m
  cases m <;> rfl

/-- A run in which some leave after they were admitted goes beside the one in which they stay. -/
lemma Path.staying (path : Path S t₀ marks t) (fresh : t₀.IsFresh)
    (admitted : ∀ id earlier, .abandoned id :: earlier <:+ marks →
      admissions (some id) earlier ≠ []) :
    ∃ gone t', Path S t₀ (marks.filter (!·.isAbandonment)) t' ∧ Apart gone t' t ∧
      Deserted gone (marks.filter (!·.isAbandonment)) marks ∧
      SideBySide S t₀ gone (marks.filter (!·.isAbandonment)) t' marks t := by
  induction path with
  | refl => exact ⟨[], t₀, .refl, .refl t₀, .start, .start⟩
  | @tail marks t t₁ m path move ih =>
    obtain ⟨gone, t', path', apart, deserted, beside⟩ := ih fun id earlier suffix =>
      admitted id earlier (suffix.trans (List.suffix_cons m marks))
    cases isAbandonment : m.isAbandonment with
    | false =>
      obtain ⟨stays, t₁', move', apart⟩ := apart.precede move
      rw [List.filter_cons_of_pos (by simp [isAbandonment])]
      exact ⟨gone, t₁', path'.tail move', apart, deserted.both stays,
        beside.both move' move apart.same⟩
    | true =>
      rw [List.filter_cons_of_neg (by simp [isAbandonment])]
      cases m with
      | abandoned id =>
        have wasAdmitted := admitted id marks (List.suffix_refl _)
        rw [← admissions_stay] at wasAdmitted
        have left : t₁ = t.abandon id := move.of_abandoned
        subst left
        have apart := apart.leave ⟨t₀, fresh, path'⟩ wasAdmitted
        exact ⟨id :: gone, t', path', apart, deserted.leave wasAdmitted,
          beside.leave move apart.same⟩
      | _ => cases isAbandonment

/-! ### The main statement -/

/-- Nobody else is disturbed by those who leave a run after they were admitted. Whoever leaves and
whenever they do, the run in which they leave goes beside the one in which they stay; and every run
in which some leave goes beside one in which nobody does. -/
theorem Path.undisturbed (fresh : t₀.IsFresh) (path : Path S t₀ marks t) :
    (∀ gone marks', Deserted gone marks marks' →
      ∃ t', Path S t₀ marks' t' ∧ SideBySide S t₀ gone marks t marks' t') ∧
    ((∀ id earlier, .abandoned id :: earlier <:+ marks → admissions (some id) earlier ≠ []) →
      ∃ gone t', Path S t₀ (marks.filter (!·.isAbandonment)) t' ∧
        Deserted gone (marks.filter (!·.isAbandonment)) marks ∧
        SideBySide S t₀ gone (marks.filter (!·.isAbandonment)) t' marks t) := by
  constructor
  · intro gone marks' deserted
    obtain ⟨t', path', -, beside⟩ := deserted.sideBySide fresh path
    exact ⟨t', path', beside⟩
  · intro admitted
    obtain ⟨gone, t', path', -, deserted, beside⟩ := path.staying fresh admitted
    exact ⟨gone, t', path', deserted, beside⟩

/-- The record of the shared round where the caller that started it leaves before its question is
asked, and the one that joined it before its answer arrives. -/
def desertedMarks (reply : Reply ClusterAnswer) : List Mark :=
  [.ended .list 0 0 (.list reply) (ending sharedStore 0 0 (.list reply)), .abandoned 1,
    .asked .list 0 ["m"] (.list reply), .joined (some 1) .list 0, .abandoned 0,
    .started (some 0) .list 0 ["m"], .aside, .aside, .chore (.addGlobal "m")]

lemma deserted_shared (reply : Reply ClusterAnswer) :
    Deserted [1, 0] (sharedMarks reply) (desertedMarks reply) := by
  apply Deserted.both _ rfl
  refine .leave ?_ (List.cons_ne_nil _ _)
  apply Deserted.both _ rfl
  apply Deserted.both _ rfl
  refine .leave ?_ (List.cons_ne_nil _ _)
  exact (((Deserted.start.both rfl).both rfl).both rfl).both rfl

theorem undisturbed_shared : ∃ t₀ t t' : Timeline Script,
    let reply := Reply.ok (Script.plainAnswer ["m"])
    t₀.IsFresh ∧ Path Script.source t₀ (sharedMarks reply) t ∧
      SideBySide Script.source t₀ [1, 0] (sharedMarks reply) t (desertedMarks reply) t' ∧
      ∃ gone t, SideBySide Script.source t₀ gone (sharedMarks reply) t (desertedMarks reply) t' := by
  obtain ⟨t, t₀, fresh, path⟩ := shared_run (.ok (Script.plainAnswer ["m"]))
  obtain ⟨t', path', beside⟩ := (path.undisturbed fresh).1 _ _ (deserted_shared _)
  refine ⟨t₀, t, t', fresh, path, beside, ?_⟩
  have admitted (id : Nat) (earlier : List Mark)
      (suffix : .abandoned id :: earlier <:+ desertedMarks (.ok (Script.plainAnswer ["m"]))) :
      admissions (some id) earlier ≠ [] := by
    simp only [desertedMarks, List.suffix_cons_iff, List.cons.injEq, reduceCtorEq, false_and,
      Mark.abandoned.injEq, false_or, List.suffix_nil, or_false] at suffix
    rcases suffix with ⟨rfl, rfl⟩ | ⟨rfl, rfl⟩
    · exact List.cons_ne_nil _ _
    · exact List.cons_ne_nil _ _
  obtain ⟨gone, t, -, -, beside⟩ := (path'.undisturbed fresh).2 admitted
  exact ⟨gone, t, beside⟩

end Timeline

end MetricWatch
