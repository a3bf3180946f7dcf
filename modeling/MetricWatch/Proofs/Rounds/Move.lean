import MetricWatch.Proofs.Rounds.Work

/-!
# Moves of a timeline

A timeline as a transition system: someone calls for a round, a fetch asks its questions, a round
ends, a caller takes what its round brought or gives up, a client does a chore at the store. Moves
come in any order, and answers take as long as they like. What rounds do not depend on (the clock,
the gates, the source, the poller and its loops) may change in any way between them.

Every move leaves a mark. The record of a run is the list of its marks, latest first.
-/

namespace MetricWatch

/-! ### Chores -/

/-- What clients do to a store apart from calling for rounds. -/
inductive Chore
  | add (nodeId name : String)
  | remove (nodeId name : String)
  | addGlobal (name : String)
  | removeGlobal (name : String)
  | changeSession (session : Session)
  | updateNodes (nodes : List String)
  | subscribe (subscriber : String)
  | unsubscribe (subscriber : String)
  | receive (subscriber : String)

/-- The store after a chore. -/
def Store.perform (s : Store) : Chore → Store
  | .add nodeId name => s.register (·.add nodeId name)
  | .remove nodeId name => s.register (·.remove nodeId name)
  | .addGlobal name => s.register (·.addGlobal name)
  | .removeGlobal name => s.register (·.removeGlobal name)
  | .changeSession session => { s with session := session }
  | .updateNodes nodes => s.updateNodes nodes
  | .subscribe subscriber => { s with channel := s.channel.subscribe subscriber }
  | .unsubscribe subscriber => { s with channel := s.channel.unsubscribe subscriber }
  | .receive subscriber =>
    match s.channel.receive subscriber with
    | some (_, channel) => { s with channel := channel }
    | none => s

namespace Store

variable (s : Store) (c : Chore)

@[simp] lemma occupant_perform (kind : RoundKind) :
    (s.perform c).occupant kind = s.occupant kind := by
  cases c with
  | receive subscriber => simp only [perform]; split <;> rfl
  | _ => rfl

@[simp] lemma nextRound_perform (kind : RoundKind) :
    (s.perform c).nextRound kind = s.nextRound kind := by
  cases c with
  | receive subscriber => simp only [perform]; split <;> rfl
  | _ => rfl

@[simp] lemma result?_perform (kind : RoundKind) (round : Nat) :
    (s.perform c).result? kind round = s.result? kind round := by
  cases c with
  | receive subscriber => simp only [perform]; split <;> rfl
  | _ => rfl

@[simp] lemma latest_perform : (s.perform c).latest = s.latest := by
  cases c with
  | receive subscriber => simp only [perform]; split <;> rfl
  | _ => rfl

@[simp] lemma listing_perform : (s.perform c).listing = s.listing := by
  cases c with
  | receive subscriber => simp only [perform]; split <;> rfl
  | _ => rfl

/-- Subscribers come, go and take events, but nobody sends one in a chore. -/
@[simp] lemma sent_perform : (s.perform c).channel.sent = s.channel.sent := by
  cases c with
  | receive subscriber =>
    simp only [perform]
    split
    · next received =>
      simp only [Channel.receive, Option.map_eq_some_iff, Prod.mk.injEq] at received
      obtain ⟨place, _, _, rfl⟩ := received
      rfl
    · rfl
  | _ => rfl

end Store

/-! ### Marks -/

/-- What a move leaves in the record of a run. A call is marked with the caller in the background
that made it, if it was one. -/
inductive Mark
  | declined (who : Option Nat) (kind : RoundKind)
  | joined (who : Option Nat) (kind : RoundKind) (round : Nat)
  | started (who : Option Nat) (kind : RoundKind) (round : Nat) (items : List String)
  | asked (kind : RoundKind) (round : Nat) (items : List String) (gathered : Gathered)
  | ended (kind : RoundKind) (round time : Nat) (gathered : Gathered) (result : CallResult)
  | served (caller : Nat) (kind : RoundKind) (round : Nat) (result : CallResult)
  | abandoned (caller : Nat)
  | chore (c : Chore)
  | aside

/-- The mark of a call that met something. -/
def Mark.ofCall (who : Option Nat) (kind : RoundKind) : Option (Admission × List String) → Mark
  | none => .declined who kind
  | some (.joined round, _) => .joined who kind round
  | some (.started round, items) => .started who kind round items

/-- Whether a mark is that of a call. -/
def Mark.isCall : Mark → Bool
  | .declined .. | .joined .. | .started .. => true
  | _ => false

lemma Mark.isCall_ofCall (who : Option Nat) (kind : RoundKind)
    (met : Option (Admission × List String)) : (ofCall who kind met).isCall = true := by
  rcases met with - | ⟨round | round, items⟩ <;> rfl

namespace Timeline

variable {σ : Type}

/-! ### Moves -/

/-- Puts the caller in the background that made a call, if it was one, at another stage. -/
def tell (t : Timeline σ) (who : Option Nat) (stage : CallerStage) : Timeline σ :=
  match who with
  | none => t
  | some id => t.setCaller id stage

/-- The work with the caller that made a call, if it was one in the background, at another
stage. -/
def Work.tell (w : Work) (who : Option Nat) (stage : CallerStage) : Work :=
  match who with
  | none => w
  | some id => w.setCaller id stage

@[simp] lemma work_tell (t : Timeline σ) (who : Option Nat) (stage : CallerStage) :
    (t.tell who stage).work = t.work.tell who stage := by cases who <;> rfl

@[simp] lemma Work.store_tell (w : Work) (who : Option Nat) (stage : CallerStage) :
    (w.tell who stage).store = w.store := by cases who <;> rfl

@[simp] lemma Work.fetches_tell (w : Work) (who : Option Nat) (stage : CallerStage) :
    (w.tell who stage).fetches = w.fetches := by cases who <;> rfl

@[simp] lemma Work.questions_tell (w : Work) (who : Option Nat) (stage : CallerStage) :
    (w.tell who stage).questions = w.questions := by cases who <;> rfl

/-- Whoever calls in the background is there and has only begun. -/
def Work.MayCall (w : Work) (who : Option Nat) (kind : RoundKind) : Prop :=
  ∀ id, who = some id → ∃ c ∈ w.callers, c.id = id ∧ c.kind = kind ∧ c.stage = .begun

/-- One move of a timeline, and the mark that it leaves. -/
inductive Move (S : Source σ) : Timeline σ → Mark → Timeline σ → Prop
  /-- Someone calls for a round: a caller in the background, or anyone else. -/
  | call {t : Timeline σ} (who : Option Nat) (kind : RoundKind)
      (mayCall : t.work.MayCall who kind) :
      Move S t (.ofCall who kind (t.store.call kind).1)
        ((t.call kind).2.tell who (afterCall kind (t.call kind).1))
  /-- A caller in the background takes what its round brought. -/
  | serve {t : Timeline σ} {c : Caller} {round : Nat} {result : CallResult}
      (isThere : c ∈ t.callers) (waiting : c.stage = .waiting round)
      (ended : t.result? c.kind round = some result) :
      Move S t (.served c.id c.kind round result) (t.setCaller c.id (.finished result))
  /-- Another caller begins in the background. -/
  | spawn (t : Timeline σ) (kind : RoundKind) : Move S t .aside (t.spawn kind).2
  /-- A caller in the background gives up. -/
  | abandon (t : Timeline σ) (id : Nat) : Move S t (.abandoned id) (t.abandon id)
  /-- A fetch asks its questions. -/
  | ask {t : Timeline σ} {f : Fetch} {items : List String} (isThere : f ∈ t.fetches)
      (begun : f.stage = .begun items) :
      Move S t (.asked f.kind f.round items (ask S t f.kind items).1)
        ((ask S t f.kind items).2.2.2.setStage f.kind f.round
          (.held (ask S t f.kind items).1 (ask S t f.kind items).2.1))
  /-- The answers of a fetch are on their way. -/
  | delay {t : Timeline σ} {f : Fetch} {gathered : Gathered} (isThere : f ∈ t.fetches)
      (asked : f.stage.gathered? = some gathered) (until_ : Nat) :
      Move S t .aside (t.setStage f.kind f.round (.waiting gathered until_))
  /-- The answers of a fetch have arrived, and its round ends. -/
  | finish {t : Timeline σ} {f : Fetch} {gathered : Gathered} (isThere : f ∈ t.fetches)
      (asked : f.stage.gathered? = some gathered) :
      Move S t (.ended f.kind f.round t.now gathered (ending t.store f.round t.now gathered))
        (t.endRound f.kind f.round gathered)
  /-- A client does a chore. -/
  | chore (t : Timeline σ) (c : Chore) :
      Move S t (.chore c) { t with store := t.store.perform c }
  /-- Something changes that rounds do not depend on. -/
  | aside {t t' : Timeline σ} (same : t'.work = t.work) : Move S t .aside t'

/-- What one move does to the work. Every invariant of runs is read off these cases. -/
inductive Change (w : Work) : Mark → Work → Prop
  | declined {who : Option Nat} {kind : RoundKind} (mayCall : w.MayCall who kind)
      (refused : w.store.items? kind = none) :
      Change w (.declined who kind) (w.tell who (.finished (notAdmitted kind)))
  | joined {who : Option Nat} {kind : RoundKind} {round : Nat} {items : List String}
      (mayCall : w.MayCall who kind) (admitted : w.store.items? kind = some items)
      (occupied : w.store.occupant kind = some round) :
      Change w (.joined who kind round) (w.tell who (.waiting round))
  | started {who : Option Nat} {kind : RoundKind} {items : List String}
      (mayCall : w.MayCall who kind) (admitted : w.store.items? kind = some items)
      (vacant : w.store.occupant kind = none) :
      Change w (.started who kind (w.store.nextRound kind) items)
        ((w.start kind items).tell who (.waiting (w.store.nextRound kind)))
  | served {c : Caller} {round : Nat} {result : CallResult} (isThere : c ∈ w.callers)
      (waiting : c.stage = .waiting round)
      (ended : w.store.result? c.kind round = some result) :
      Change w (.served c.id c.kind round result) (w.setCaller c.id (.finished result))
  | spawned (kind : RoundKind) : Change w .aside (w.spawn kind)
  | abandoned (id : Nat) : Change w (.abandoned id) (w.abandon id)
  | asked {f : Fetch} {items : List String} {gathered : Gathered}
      {questions : List (Nat × Question)} (isThere : f ∈ w.fetches)
      (begun : f.stage = .begun items) (ofKind : gathered.kind = f.kind)
      (posed : Poses items f.kind questions) (delay : Nat) :
      Change w (.asked f.kind f.round items gathered)
        ((w.pose questions).setStage f.kind f.round (.held gathered delay))
  | delayed {f : Fetch} {gathered : Gathered} (isThere : f ∈ w.fetches)
      (asked : f.stage.gathered? = some gathered) (until_ : Nat) :
      Change w .aside (w.setStage f.kind f.round (.waiting gathered until_))
  | ended {f : Fetch} {gathered : Gathered} (isThere : f ∈ w.fetches)
      (asked : f.stage.gathered? = some gathered) (now : Nat) :
      Change w (.ended f.kind f.round now gathered (ending w.store f.round now gathered))
        (w.finish f.kind f.round now gathered)
  | chore (c : Chore) : Change w (.chore c) { w with store := w.store.perform c }
  | aside : Change w .aside w

variable {S : Source σ} {t₀ t t' : Timeline σ} {marks later : List Mark} {m : Mark}

theorem Move.change (move : Move S t m t') : Change t.work m t'.work := by
  cases move with
  | call who kind mayCall =>
    rw [work_tell]
    have called := t.work_call kind
    generalize (t.store.call kind).1 = met, (t.call kind).1 = round,
      (t.call kind).2.work = w at called
    cases called with
    | declined refused => exact .declined mayCall refused
    | joined admitted occupied => exact .joined mayCall admitted occupied
    | started admitted vacant => exact .started mayCall admitted vacant
  | serve isThere waiting ended => exact .served isThere waiting ended
  | spawn kind =>
    rw [work_spawn]
    exact .spawned kind
  | abandon id => exact .abandoned id
  | @ask f items isThere begun =>
    obtain ⟨questions, posed, work⟩ := work_ask S t f.kind items
    rw [work_setStage, work]
    exact .asked isThere begun (kind_ask S t f.kind items) posed _
  | delay isThere asked until_ => exact .delayed isThere asked until_
  | finish isThere asked =>
    rw [work_endRound]
    exact .ended isThere asked t.now
  | chore c => exact .chore c
  | aside same =>
    rw [same]
    exact .aside

/-- A round starts at a call that is admitted and finds the slot free. -/
lemma Move.of_started {who : Option Nat} {kind : RoundKind} {round : Nat} {items : List String}
    (move : Move S t (.started who kind round items) t') :
    t.store.items? kind = some items ∧ t.store.occupant kind = none ∧
      round = t.store.nextRound kind ∧
      t'.work = (t.work.start kind items).tell who (.waiting round) := by
  have change := move.change
  generalize t'.work = w' at change
  cases change with
  | started mayCall admitted vacant => exact ⟨admitted, vacant, rfl, rfl⟩

/-- A round ends when the answers of its fetch are there. -/
lemma Move.of_ended {kind : RoundKind} {round time : Nat} {g : Gathered} {result : CallResult}
    (move : Move S t (.ended kind round time g result) t') :
    time = t.now ∧ ∃ f ∈ t.fetches, f.kind = kind ∧ f.round = round ∧
      f.stage.gathered? = some g ∧ result = Timeline.ending t.store round time g ∧
      t'.work = t.work.finish kind round time g := by
  generalize ended : Mark.ended kind round time g result = m at move
  cases move with
  | call => cases (congrArg Mark.isCall ended).trans (Mark.isCall_ofCall ..)
  | finish isThere asked =>
    obtain ⟨rfl, rfl, rfl, rfl, rfl⟩ := Mark.ended.inj ended
    exact ⟨rfl, _, isThere, rfl, rfl, asked, rfl, work_endRound ..⟩
  | _ => cases ended

/-- A round asks its questions of the source, and nothing else is changed than by asking. -/
lemma Move.of_asked {kind : RoundKind} {round : Nat} {items : List String} {g : Gathered}
    (move : Move S t (.asked kind round items g) t') :
    let asked := Timeline.ask S t kind items
    g = asked.1 ∧ t' = asked.2.2.2.setStage kind round (.held g asked.2.1) := by
  generalize isAsked : Mark.asked kind round items g = m at move
  cases move with
  | call => cases (congrArg Mark.isCall isAsked).trans (Mark.isCall_ofCall ..)
  | ask =>
    obtain ⟨rfl, rfl, rfl, rfl⟩ := Mark.asked.inj isAsked
    exact ⟨rfl, rfl⟩
  | _ => cases isAsked

/-- A chore is done at the store, and nothing else is changed. -/
lemma Move.of_chore {c : Chore} (move : Move S t (.chore c) t') :
    t' = { t with store := t.store.perform c } := by
  generalize isChore : Mark.chore c = m at move
  cases move with
  | call => cases (congrArg Mark.isCall isChore).trans (Mark.isCall_ofCall ..)
  | chore =>
    obtain rfl := Mark.chore.inj isChore
    rfl
  | _ => cases isChore

/-! ### Paths and runs -/

/-- Moves one after the other, and their marks, latest first. -/
inductive Path (S : Source σ) (t₀ : Timeline σ) : List Mark → Timeline σ → Prop
  | refl : Path S t₀ [] t₀
  | tail {marks : List Mark} {t t' : Timeline σ} {m : Mark} (path : Path S t₀ marks t)
      (move : Move S t m t') : Path S t₀ (m :: marks) t'

/-- A timeline on which nothing has run yet, with a store before any round. -/
def IsFresh (t : Timeline σ) : Prop :=
  ∃ session directory namesNamespace capacity source,
    t = start (.fresh session directory namesNamespace capacity) source

/-- The runs of a store from its beginning. -/
def Run (S : Source σ) (marks : List Mark) (t : Timeline σ) : Prop :=
  ∃ t₀ : Timeline σ, t₀.IsFresh ∧ Path S t₀ marks t

lemma Path.single (move : Move S t m t') : Path S t [m] t' := .tail .refl move

lemma Path.trans (first : Path S t₀ marks t) (last : Path S t later t') :
    Path S t₀ (later ++ marks) t' := by
  induction last with
  | refl => exact first
  | tail _ move ih => exact .tail ih move

/-- A path can be taken apart wherever its record can. -/
lemma Path.split (path : Path S t₀ (later ++ marks) t') :
    ∃ t, Path S t₀ marks t ∧ Path S t later t' := by
  induction later generalizing t' with
  | nil => exact ⟨t', path, .refl⟩
  | cons m later ih =>
    cases path with
    | tail path move =>
      obtain ⟨t, before, after⟩ := ih path
      exact ⟨t, before, .tail after move⟩

lemma Run.tail (run : Run S marks t) (move : Move S t m t') : Run S (m :: marks) t' := by
  obtain ⟨t₀, fresh, path⟩ := run
  exact ⟨t₀, fresh, path.tail move⟩

lemma Run.trans (run : Run S marks t) (path : Path S t later t') : Run S (later ++ marks) t' := by
  obtain ⟨t₀, fresh, before⟩ := run
  exact ⟨t₀, fresh, before.trans path⟩

/-- A run can be taken apart wherever its record can. -/
lemma Run.split (run : Run S (later ++ marks) t') :
    ∃ t, Run S marks t ∧ Path S t later t' := by
  obtain ⟨t₀, fresh, path⟩ := run
  obtain ⟨t, before, after⟩ := path.split
  exact ⟨t, ⟨t₀, fresh, before⟩, after⟩

/-- Every mark of a run was left by a move of it. -/
lemma Run.of_mem (run : Run S marks t) (mem : m ∈ marks) :
    ∃ earlier later t₁ t₂, marks = later ++ m :: earlier ∧ Run S earlier t₁ ∧
      Move S t₁ m t₂ ∧ Path S t₂ later t := by
  obtain ⟨later, earlier, rfl⟩ := List.append_of_mem mem
  obtain ⟨t₂, before, path⟩ := run.split
  obtain ⟨t₀, fresh, before⟩ := before
  cases before with
  | tail before move => exact ⟨earlier, later, _, t₂, rfl, ⟨t₀, fresh, before⟩, move, path⟩

/-- The work before any round. -/
def Work.IsFresh (w : Work) : Prop :=
  ∃ session directory namesNamespace capacity,
    w = ⟨.fresh session directory namesNamespace capacity, [], [], []⟩

/-- What holds of work before any round and is kept by every change holds along every run. -/
theorem Run.induct {P : List Mark → Work → Prop} (run : Run S marks t)
    (fresh : ∀ w : Work, w.IsFresh → P [] w)
    (change : ∀ {marks w m w'}, P marks w → Change w m w' → P (m :: marks) w') :
    P marks t.work := by
  obtain ⟨t₀, ⟨session, directory, namesNamespace, capacity, source, rfl⟩, path⟩ := run
  induction path with
  | refl => exact fresh _ ⟨session, directory, namesNamespace, capacity, rfl⟩
  | tail _ move ih => exact change ih move.change

end Timeline

end MetricWatch
