import MetricWatch.Proofs.Channels
import MetricWatch.Proofs.Rounds.Move

/-!
# What subscribers have no hand in

Subscribers come, go and take what they get, and nothing but their places in the channel depends on
it. So a run goes beside every other in which subscribers do other things at other times, or nothing
at all, and the two are the same but for these places. The main statement is `Path.beside`.
-/

namespace MetricWatch

open Json (Members)

/-! ### Chores of subscribers -/

/-- The subscriber whose chore it is, if it is one of a subscriber. -/
def Chore.subscriber? : Chore → Option String
  | .subscribe subscriber | .unsubscribe subscriber | .receive subscriber => some subscriber
  | _ => none

/-- The subscriber whose chore left a mark. -/
def Mark.subscriber? : Mark → Option String
  | .chore c => c.subscriber?
  | _ => none

/-- A record without what subscribers do. -/
def withoutSubscribers (marks : List Mark) : List Mark :=
  marks.filter fun m => m.subscriber?.isNone

lemma Mark.exists_of_subscriber? {m : Mark} {subscriber : String}
    (own : m.subscriber? = some subscriber) :
    ∃ c : Chore, m = .chore c ∧ c.subscriber? = some subscriber := by
  cases m with
  | chore c => exact ⟨c, rfl, own⟩
  | _ => cases own

section

variable {marks : List Mark} {m : Mark}

lemma withoutSubscribers_of_none (others : m.subscriber? = none) :
    withoutSubscribers (m :: marks) = m :: withoutSubscribers marks :=
  List.filter_cons_of_pos (by rw [others]; rfl)

lemma withoutSubscribers_of_some {subscriber : String} (own : m.subscriber? = some subscriber) :
    withoutSubscribers (m :: marks) = withoutSubscribers marks :=
  List.filter_cons_of_neg (by rw [own]; exact Bool.false_ne_true)

end

/-! ### Places -/

/-- A store with other places in its channel. -/
def Store.placed (s : Store) (places : Members Nat) : Store :=
  { s with channel := { s.channel with places := places } }

namespace Store

variable (s : Store) (places : Members Nat)

lemma call_placed (kind : RoundKind) :
    (s.placed places).call kind = ((s.call kind).1, (s.call kind).2.placed places) := by
  cases kind with
  | list =>
    have session : (s.placed places).session = s.session := rfl
    cases loggedIn : s.session.isLoggedIn <;> simp only [call, callList, session, loggedIn] <;> rfl
  | names =>
    have directory : (s.placed places).directory = s.directory := rfl
    cases known : s.directory.nodes with
    | none => simp only [call, callNames, directory, known]
    | some nodes =>
      simp only [call, callNames, directory, known]
      rfl

/-- What others do than subscribers does not depend on places, and leaves them alone. -/
lemma perform_placed {c : Chore} (others : c.subscriber? = none) :
    (s.placed places).perform c = (s.perform c).placed places := by
  cases c with
  | subscribe | unsubscribe | receive => cases others
  | _ => rfl

/-- What subscribers do changes nothing but places. -/
lemma placed_perform {c : Chore} {subscriber : String} (own : c.subscriber? = some subscriber) :
    (s.perform c).placed places = s.placed places := by
  cases c with
  | subscribe | unsubscribe => rfl
  | receive =>
    simp only [perform]
    split
    next received =>
      obtain ⟨_, rfl⟩ := Channel.receive_eq received
      rfl
    next => rfl
  | _ => cases own

end Store

namespace Timeline

variable {σ : Type} {S : Source σ} {t₀ t t' t₁ u : Timeline σ} {marks marks' : List Mark} {m : Mark}

lemma conclude_placed (s : Store) (places : Members Nat) (round now : Nat) (g : Gathered) :
    conclude (s.placed places) round now g = (conclude s round now g).placed places := by
  cases g with
  | list reply => cases reply <;> rfl
  | names replies => cases broke : breakdown? replies <;> simp only [conclude, broke] <;> rfl

/-- A timeline with other places in its channel. -/
def placed (t : Timeline σ) (places : Members Nat) : Timeline σ :=
  { t with store := t.store.placed places }

/-- A timeline apart from the places of subscribers. -/
def unheard (t : Timeline σ) : Timeline σ := t.placed []

lemma eq_placed (same : u.unheard = t.unheard) : u = t.placed u.store.channel.places := by
  have placed := congrArg (·.placed u.store.channel.places) same
  exact placed

section

variable (t : Timeline σ) (places : Members Nat)

lemma wake_placed (task : TaskId) : (t.placed places).wake task = (t.wake task).placed places := by
  have ready : (t.placed places).ready = t.ready := rfl
  rw [wake, wake, ready]
  split <;> rfl

lemma wakeAll_placed (tasks : List TaskId) :
    (t.placed places).wakeAll tasks = (t.wakeAll tasks).placed places := by
  induction tasks generalizing t with
  | nil => rfl
  | cons task tasks ih =>
    have woken := ih (t.wake task)
    rw [← wake_placed] at woken
    exact woken

lemma noteAll_placed (notes : List Note) :
    (t.placed places).noteAll notes = (t.noteAll notes).placed places := by
  induction notes generalizing t with
  | nil => rfl
  | cons n notes ih => exact ih (t.note n)

lemma timeline_call_placed (kind : RoundKind) :
    (t.placed places).call kind = ((t.call kind).1, (t.call kind).2.placed places) := by
  have store : (t.placed places).store.call kind
      = ((t.store.call kind).1, (t.store.call kind).2.placed places) :=
    t.store.call_placed places kind
  rw [Timeline.call, Timeline.call, store]
  obtain ⟨met, after⟩ := t.store.call kind
  rcases met with - | ⟨round | round, items⟩
  · cases kind <;> rfl
  · simp only [← wake_placed]
    rfl
  · rfl

lemma afterNode_placed (S : Source σ) (node : String) :
    (t.placed places).afterNode S node = (t.afterNode S node).placed places := by
  simp only [afterNode, ← noteAll_placed]
  rfl

lemma askNames_placed (S : Source σ) (items : List String) :
    askNames S items (t.placed places)
      = ((askNames S items t).1, (askNames S items t).2.placed places) := by
  induction items generalizing t with
  | nil => rfl
  | cons node rest ih =>
    have opened : ((t.afterNode S node).placed places).namesOpen
        = (t.afterNode S node).namesOpen := rfl
    have answer : (t.placed places).nodeAnswer S node = t.nodeAnswer S node := rfl
    simp only [askNames_cons, answer, afterNode_placed, ih, opened]
    by_cases atOnce : (t.afterNode S node).namesOpen ∧ (t.nodeAnswer S node).delay = 0
    · simp only [if_pos atOnce]
      split <;> rfl
    · simp only [if_neg atOnce]
      split <;> rfl

lemma ask_placed (S : Source σ) (kind : RoundKind) (items : List String) :
    ask S (t.placed places) kind items
      = ((ask S t kind items).1, (ask S t kind items).2.1, (ask S t kind items).2.2.1,
        (ask S t kind items).2.2.2.placed places) := by
  cases kind with
  | list =>
    simp only [ask, askMetrics]
    rw [← noteAll_placed]
    rfl
  | names =>
    simp only [ask, askNames_placed]

lemma endRound_placed (kind : RoundKind) (round : Nat) (g : Gathered) :
    (t.placed places).endRound kind round g = (t.endRound kind round g).placed places := by
  have concluded : conclude (t.placed places).store round (t.placed places).now g
      = (conclude t.store round t.now g).placed places := conclude_placed ..
  simp only [endRound, concluded, ← wakeAll_placed, ← noteAll_placed]
  rfl

lemma tell_placed (who : Option Nat) (stage : CallerStage) :
    (t.placed places).tell who stage = (t.tell who stage).placed places := by
  cases who <;> rfl

end

/-! ### The same move elsewhere -/

/-- A move of anyone but a subscriber can be made wherever subscribers are. -/
lemma Move.placed (move : Move S t m t₁) (others : m.subscriber? = none) (places : Members Nat) :
    Move S (t.placed places) m (t₁.placed places) := by
  cases move with
  | call who kind mayCall =>
    have called := Move.call (S := S) (t := t.placed places) who kind mayCall
    have store : (t.placed places).store.call kind
        = ((t.store.call kind).1, (t.store.call kind).2.placed places) :=
      t.store.call_placed places kind
    rwa [store, timeline_call_placed, tell_placed] at called
  | serve isThere waiting ended => exact .serve isThere waiting ended
  | spawn kind =>
    have spawned := Move.spawn (S := S) (t.placed places) kind
    simp only [Timeline.spawn, ← wake_placed]
    exact spawned
  | abandon id => exact .abandon _ id
  | @ask f items isThere begun =>
    have asked := Move.ask (S := S) (t := t.placed places) isThere begun
    rw [ask_placed] at asked
    exact asked
  | delay isThere asked until_ => exact .delay (t := t.placed places) isThere asked until_
  | @finish f g isThere asked =>
    have finished := Move.finish (S := S) (t := t.placed places) isThere asked
    rw [endRound_placed] at finished
    exact finished
  | chore c =>
    have done := Move.chore (S := S) (t.placed places) c
    have performed : (t.placed places).store.perform c = (t.store.perform c).placed places :=
      t.store.perform_placed places others
    rw [performed] at done
    exact done
  | aside same =>
    exact .aside (congrArg (fun w : Work => { w with store := w.store.placed places }) same)

/-- A subscriber can do anything anywhere, and nothing changes but places. -/
lemma Move.of_subscriber {subscriber : String} (own : m.subscriber? = some subscriber) :
    (∃ t₁, Move S t m t₁) ∧ ∀ t₁, Move S t m t₁ → t₁.unheard = t.unheard := by
  obtain ⟨c, rfl, own⟩ := Mark.exists_of_subscriber? own
  refine ⟨⟨_, .chore t c⟩, fun t₁ move => ?_⟩
  rw [move.of_chore]
  exact congrArg (fun s : Store => { t with store := s }) (t.store.placed_perform [] own)

/-! ### Runs side by side -/

/-- Two runs from one beginning in which subscribers do different things. They are the same but for
places at every moment. -/
inductive Beside (S : Source σ) (t₀ : Timeline σ) :
    List Mark → Timeline σ → List Mark → Timeline σ → Prop
  | start : Beside S t₀ [] t₀ [] t₀
  | both {marks marks' : List Mark} {m : Mark} {t t' t₁ t₁' : Timeline σ}
      (before : Beside S t₀ marks t marks' t') (move : Move S t m t₁) (move' : Move S t' m t₁')
      (same : t₁'.unheard = t₁.unheard) : Beside S t₀ (m :: marks) t₁ (m :: marks') t₁'
  | first {marks marks' : List Mark} {m : Mark} {t t' t₁ : Timeline σ} {subscriber : String}
      (before : Beside S t₀ marks t marks' t') (own : m.subscriber? = some subscriber)
      (move : Move S t m t₁) (same : t'.unheard = t₁.unheard) :
      Beside S t₀ (m :: marks) t₁ marks' t'
  | second {marks marks' : List Mark} {m : Mark} {t t' t₁' : Timeline σ} {subscriber : String}
      (before : Beside S t₀ marks t marks' t') (own : m.subscriber? = some subscriber)
      (move' : Move S t' m t₁') (same : t₁'.unheard = t.unheard) :
      Beside S t₀ marks t (m :: marks') t₁'

namespace Beside

lemma same (beside : Beside S t₀ marks t marks' t') : t'.unheard = t.unheard := by
  cases beside with
  | start => rfl
  | both _ _ _ same | first _ _ _ same | second _ _ _ same => exact same

/-- A subscriber does something more in the second run. -/
lemma more (beside : Beside S t₀ marks t marks' t') (path' : Path S t₀ marks' t')
    {subscriber : String} (own : m.subscriber? = some subscriber) :
    ∃ t₁', Path S t₀ (m :: marks') t₁' ∧ Beside S t₀ marks t (m :: marks') t₁' := by
  obtain ⟨⟨t₁', move'⟩, unchanged⟩ := Move.of_subscriber (S := S) (t := t') own
  exact ⟨t₁', path'.tail move',
    beside.second own move' ((unchanged t₁' move').trans beside.same)⟩

end Beside

/-- Beside every run there is one for whatever else subscribers may do. -/
theorem Path.beside (path : Path S t₀ marks t)
    (same : withoutSubscribers marks' = withoutSubscribers marks) :
    ∃ t', Path S t₀ marks' t' ∧ Beside S t₀ marks t marks' t' := by
  -- The induction is on the first run, and on the second record up to the next mark of both.
  induction path generalizing marks' with
  | refl =>
    induction marks' with
    | nil => exact ⟨t₀, .refl, .start⟩
    | cons m marks' ih =>
      cases own : m.subscriber? with
      | some subscriber =>
        rw [withoutSubscribers_of_some own] at same
        obtain ⟨t', path', beside⟩ := ih same
        exact beside.more path' own
      | none =>
        rw [withoutSubscribers_of_none own] at same
        cases same
  | @tail marks t t₁ m path move ih =>
    cases own : m.subscriber? with
    | some subscriber =>
      rw [withoutSubscribers_of_some own] at same
      obtain ⟨t', path', beside⟩ := ih same
      have unchanged := (Move.of_subscriber own).2 t₁ move
      exact ⟨t', path', beside.first own move (beside.same.trans unchanged.symm)⟩
    | none =>
      rw [withoutSubscribers_of_none own] at same
      induction marks' with
      | nil => cases same
      | cons m' marks' again =>
        cases own' : m'.subscriber? with
        | some subscriber =>
          rw [withoutSubscribers_of_some own'] at same
          obtain ⟨t', path', beside⟩ := again same
          exact beside.more path' own'
        | none =>
          rw [withoutSubscribers_of_none own'] at same
          obtain ⟨rfl, rest⟩ := List.cons.inj same
          obtain ⟨t', path', beside⟩ := ih rest
          have move' := move.placed own t'.store.channel.places
          rw [← eq_placed beside.same] at move'
          exact ⟨_, path'.tail move', beside.both move move' rfl⟩

end Timeline

end MetricWatch
