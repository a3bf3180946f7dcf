import MetricWatch.Proofs.Rounds.AtRest
import MetricWatch.Proofs.Rounds.Release

/-!
# The nodes of a round

The directory holds the nodes that it was given last, and a names round asks the nodes that it held
when the round started: each entry once and in order, up to the first whose fetch breaks down. A
round is in the slot while it is fetched, and for ever if one of its fetches broke down. The main
statements are `Path.nodes`, `asks_askNames` and `Run.fetched_or_stuck`.
-/

namespace MetricWatch

/-- The nodes that a mark gives to the directory, if it gives any. -/
def Mark.nodes? : Mark → Option (List String)
  | .chore (.updateNodes nodes) => some nodes
  | _ => none

/-- Whether asking a node for its names may break down. -/
def Source.Breaks {σ : Type} (S : Source σ) (node namesNamespace : String) : Prop :=
  ∃ state session now text, (S.names state session now node namesNamespace).answer.reply = .broke text

namespace Timeline

variable {σ : Type} {S : Source σ} {t t' : Timeline σ} {marks : List Mark} {m : Mark} {w w' : Work}
  {kind : RoundKind} {round : Nat}

/-! ### The directory -/

lemma directory_conclude (s : Store) (round now : Nat) (g : Gathered) :
    (conclude s round now g).directory = s.directory ∧
      (conclude s round now g).namesNamespace = s.namesNamespace := by
  cases g with
  | list reply => cases reply <;> exact ⟨rfl, rfl⟩
  | names replies =>
    cases broke : breakdown? replies <;> simp only [conclude, broke] <;> exact ⟨rfl, rfl⟩

/-- Only an update changes the nodes of the directory, and nothing changes the namespace. -/
lemma Change.nodes (change : Change w m w') :
    w'.store.directory.nodes = m.nodes?.or w.store.directory.nodes ∧
      w'.store.namesNamespace = w.store.namesNamespace := by
  cases change with
  | declined | joined =>
    rw [Work.store_tell]
    exact ⟨rfl, rfl⟩
  | @started _ kind =>
    rw [Work.store_tell]
    cases kind <;> exact ⟨rfl, rfl⟩
  | ended _ _ now =>
    obtain ⟨directory, namesNamespace⟩ := directory_conclude w.store _ now _
    rw [Work.store_finish, directory, namesNamespace]
    exact ⟨rfl, rfl⟩
  | chore c =>
    cases c with
    | receive subscriber =>
      simp only [Store.perform]
      split <;> exact ⟨rfl, rfl⟩
    | _ => exact ⟨rfl, rfl⟩
  | served | spawned | abandoned | asked | delayed | aside => exact ⟨rfl, rfl⟩

/-- The directory holds the nodes that it was given last. -/
lemma Path.nodes (path : Path S t marks t') :
    t'.store.directory.nodes = (marks.findSome? Mark.nodes?).or t.store.directory.nodes := by
  induction path with
  | refl => rfl
  | @tail marks _ _ m _ move ih =>
    refine (move.change.nodes.1 : _ = _).trans ?_
    rw [show (work _).store.directory.nodes = _ from ih, List.findSome?_cons]
    cases m.nodes? <;> rfl

/-- The directory holds nothing as long as it is never given anything. -/
lemma Path.nodes_eq_none_iff (path : Path S t marks t') : t'.store.directory.nodes = none ↔
    t.store.directory.nodes = none ∧ ∀ nodes, .chore (.updateNodes nodes) ∉ marks := by
  rw [path.nodes, Option.or_eq_none_iff, List.findSome?_eq_none_iff, and_comm]
  refine and_congr_right fun _ => ⟨fun none nodes mem => ?_, fun never m mem => ?_⟩
  · cases none _ mem
  · unfold Mark.nodes?
    split
    next nodes => exact absurd mem (never nodes)
    next => rfl

lemma Path.namesNamespace (path : Path S t marks t') :
    t'.store.namesNamespace = t.store.namesNamespace := by
  induction path with
  | refl => rfl
  | tail _ move ih => exact move.change.nodes.2.trans ih

/-! ### Asking -/

/-- The questions of a time for the names of nodes, latest first. -/
def questionsFor (time : Nat) (namesNamespace : String) (nodes : List String) :
    List (Nat × Question) := (nodes.map fun node => (time, .names node namesNamespace)).reverse

/-- What has been asked, from one timeline to another, of nodes that are to be asked for their
names: each entry once and in order, up to one whose fetch breaks down. -/
inductive Asks (S : Source σ) (namesNamespace : String) (nodes : List String) (t t' : Timeline σ) :
    Prop
  | all (questions : t'.questions = questionsFor t.now namesNamespace nodes ++ t.questions)
  | cut {before after : List String} {node : String} (isCut : nodes = before ++ node :: after)
      (breaks : S.Breaks node namesNamespace)
      (questions : t'.questions
        = questionsFor t.now namesNamespace (before ++ [node]) ++ t.questions)

lemma Asks.congr {namesNamespace : String} {nodes : List String} {t'' : Timeline σ}
    (h : Asks S namesNamespace nodes t t') (questions : t''.questions = t'.questions) :
    Asks S namesNamespace nodes t t'' := by
  cases h with
  | all asked => exact .all (questions.trans asked)
  | cut isCut breaks asked => exact .cut isCut breaks (questions.trans asked)

lemma questionsFor_cons (time : Nat) (namesNamespace node : String) (nodes : List String) :
    questionsFor time namesNamespace (node :: nodes)
      = questionsFor time namesNamespace nodes ++ [(time, .names node namesNamespace)] := by
  simp [questionsFor]

lemma afterNode_eq (S : Source σ) (t : Timeline σ) (node : String) :
    (t.afterNode S node).store = t.store ∧ (t.afterNode S node).now = t.now ∧
      (t.afterNode S node).questions = (t.now, .names node t.store.namesNamespace) :: t.questions := by
  simp [afterNode, noteAll_eq]

/-- A names round asks its nodes, unless a fetch breaks down. -/
lemma asks_askNames (S : Source σ) (nodes : List String) (t : Timeline σ) :
    Asks S t.store.namesNamespace nodes t (askNames S nodes t).2 := by
  induction nodes generalizing t with
  | nil => exact .all rfl
  | cons node rest ih =>
    obtain ⟨store, now, questions⟩ := t.afterNode_eq S node
    have more : Asks S t.store.namesNamespace (node :: rest) t
        (askNames S rest (t.afterNode S node)).2 := by
      have asks := ih (t.afterNode S node)
      rw [store] at asks
      cases asks with
      | all asked =>
        refine .all ?_
        rw [asked, questions, now, questionsFor_cons, List.append_assoc, List.singleton_append]
      | @cut before after broken isCut breaks asked =>
        refine .cut (show node :: rest = (node :: before) ++ broken :: after from
          congrArg (node :: ·) isCut) breaks ?_
        rw [asked, questions, now, List.cons_append, questionsFor_cons, List.append_assoc,
          List.singleton_append]
    rw [askNames_cons]
    dsimp only
    split
    next text broke =>
      split
      · exact .cut (show node :: rest = [] ++ node :: rest from rfl) ⟨_, _, _, text, broke⟩ questions
      · exact more
    · exact more

lemma questions_awaitAnswers (t : Timeline σ) (kind : RoundKind) (round : Nat) (g : Gathered)
    (delay : Nat) : (t.awaitAnswers kind round g delay).questions = t.questions := by
  unfold awaitAnswers
  split
  · exact congrArg Work.questions (work_endRound t kind round g)
  · rfl

/-- A round that has not asked has just started, and its fetch was not there before. -/
lemma Change.begun (change : Change w m w') {f : Fetch} {items : List String}
    (isThere : f ∈ w'.fetches) (begun : f.stage = .begun items) :
    f ∈ w.fetches ∨ f.round = w.store.nextRound f.kind := by
  have put {fetches : List Fetch} {kind : RoundKind} {round : Nat} {stage : FetchStage}
      (isLater : ∀ items, stage ≠ .begun items) (mem : f ∈ fetches.map fun f =>
        if f.kind = kind ∧ f.round = round then { f with stage := stage } else f) : f ∈ fetches := by
    obtain ⟨f₀, mem₀, rfl⟩ := List.mem_map.mp mem
    split at begun
    next => exact absurd begun (isLater items)
    next other =>
      rw [if_neg other]
      exact mem₀
  cases change with
  | started =>
    rw [Work.fetches_tell] at isThere
    refine (List.mem_append.mp isThere).imp_right fun new => ?_
    rw [List.mem_singleton.mp new]
  | declined | joined =>
    rw [Work.fetches_tell] at isThere
    exact .inl isThere
  | asked | delayed => exact .inl (put (fun _ same => by cases same) isThere)
  | ended => exact .inl (List.mem_filter.mp isThere).1
  | served | spawned | abandoned | chore | aside => exact .inl isThere

lemma Change.nextRound_le (change : Change w m w') (kind : RoundKind) :
    w.store.nextRound kind ≤ w'.store.nextRound kind := by
  cases change with
  | @started _ other _ _ _ vacant =>
    rw [Work.store_tell, Work.store_start, Store.nextRound_occupy vacant]
    split
    next same => exact same ▸ Nat.le_succ _
    next => exact Nat.le_refl _
  | declined | joined => exact Nat.le_of_eq (by rw [Work.store_tell])
  | chore c => exact Nat.le_of_eq (Store.nextRound_perform ..).symm
  | ended => exact Nat.le_of_eq (nextRound_conclude ..).symm
  | served | spawned | abandoned | asked | delayed | aside => exact Nat.le_refl _

lemma Path.nextRound_le (path : Path S t marks t') (kind : RoundKind) :
    t.store.nextRound kind ≤ t'.store.nextRound kind := by
  induction path with
  | refl => exact Nat.le_refl _
  | tail _ move ih => exact Nat.le_trans ih (move.change.nextRound_le kind)

/-- Whether a round has started and has nothing more to ask. -/
structure IsDone (w : Work) (kind : RoundKind) (round : Nat) : Prop where
  started : round < w.store.nextRound kind
  asked : ∀ items, ⟨kind, round, .begun items⟩ ∉ w.fetches

/-- A round does not ask again. -/
lemma Path.isDone (path : Path S t marks t') (done : IsDone t.work kind round) :
    IsDone t'.work kind round := by
  induction path with
  | refl => exact done
  | tail _ move ih =>
    have change := move.change
    refine ⟨Nat.lt_of_lt_of_le ih.started (change.nextRound_le kind), fun items isThere => ?_⟩
    rcases change.begun isThere rfl with old | new
    · exact ih.asked items old
    · exact absurd new (Nat.ne_of_lt ih.started)

/-! ### The slot -/

/-- What nodes answer comes from the source. -/
lemma answer_askNames (S : Source σ) (nodes : List String) (t : Timeline σ) {node : String}
    {answer : Answer (Reply (List String))} (mem : (node, answer) ∈ (askNames S nodes t).1) :
    ∃ state session now namesNamespace,
      (S.names state session now node namesNamespace).answer = answer := by
  induction nodes generalizing t with
  | nil => cases mem
  | cons first rest ih =>
    have isFirst (own : (node, answer) = (first, t.nodeAnswer S first)) :
        ∃ state session now namesNamespace,
          (S.names state session now node namesNamespace).answer = answer := by
      obtain ⟨rfl, rfl⟩ := Prod.mk.inj own
      exact ⟨_, _, _, _, rfl⟩
    have either (mem : (node, answer) ∈
        (first, t.nodeAnswer S first) :: (askNames S rest (t.afterNode S first)).1) :
        ∃ state session now namesNamespace,
          (S.names state session now node namesNamespace).answer = answer :=
      (List.mem_cons.mp mem).elim isFirst (ih _)
    rw [askNames_cons] at mem
    dsimp only at mem
    split at mem
    · split at mem
      · exact isFirst (List.mem_singleton.mp mem)
      · exact either mem
    · exact either mem

/-- A names round breaks off only if asking one of its nodes broke down. -/
lemma breaks_of_ask {nodes : List String} (broke : (ask S t .names nodes).1.breaks = true) :
    ∃ node namesNamespace, S.Breaks node namesNamespace := by
  obtain ⟨text, broke⟩ := Option.isSome_iff_exists.mp broke
  obtain ⟨⟨node, answer⟩, isAnswer, reply, -⟩ := earliest_of_breakdown? broke
  obtain ⟨state, session, now, namesNamespace, rfl⟩ := answer_askNames S nodes t isAnswer
  exact ⟨_, namesNamespace, state, session, now, text, reply⟩

/-- A names round in the slot is fetched, or asking one of its nodes broke down and all who join it
meet its error. -/
lemma Run.fetched_or_stuck (run : Run S marks t) (occupied : t.store.occupant .names = some round) :
    (∃ f ∈ t.fetches, f.kind = .names ∧ f.round = round) ∨
      t.work.fetchesOf .names = [] ∧ (∃ node namesNamespace, S.Breaks node namesNamespace) ∧
        ∃ text, t.result? .names round = some (.failed .names (Slot.breakdown round text)) := by
  refine (run.fetched_or_broken occupied).imp_right fun broken => ?_
  obtain ⟨nothing, ⟨u, nodes, broke⟩, failed⟩ := broken
  exact ⟨nothing, breaks_of_ask broke, failed⟩

end Timeline

end MetricWatch
