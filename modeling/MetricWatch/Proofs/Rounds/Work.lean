import MetricWatch.Timeline.Polling
import Mathlib.Tactic.Lemma

/-!
# What rounds depend on

Of all that a timeline holds, rounds depend on its store, on the fetches and the callers in the
background, and on the questions that were asked: its work. Waking tasks, setting timers, taking
notes and changing loops leave the work as it is. The other operations of a timeline are described
here by what they do to it.
-/

namespace MetricWatch

/-! ### Slots -/

variable {α : Type}

namespace Slot

@[simp] lemma outcome?_finish (s : Slot α) (round : Nat) (outcome : Except Error α)
    (other : Nat) :
    (s.finish round outcome).outcome? other
      = if round = other then some outcome else s.outcome? other := by
  by_cases h : round = other <;> simp [outcome?, finish, h]

@[simp] lemma outcome?_breakOff (s : Slot α) (round : Nat) (text : String) (other : Nat) :
    (s.breakOff round text).outcome? other
      = if round = other then some (.error (breakdown round text)) else s.outcome? other := by
  by_cases h : round = other <;> simp [outcome?, breakOff, h]

end Slot

/-! ### Gathered answers -/

/-- The kind of round that answers belong to. -/
def Gathered.kind : Gathered → RoundKind
  | .list _ => .list
  | .names _ => .names

/-- Whether a round breaks off with such answers. -/
def Gathered.breaks : Gathered → Bool
  | .list (.broke _) => true
  | .list _ => false
  | .names replies => (Timeline.breakdown? replies).isSome

/-- What the questions of a fetch bring, once it has asked them. -/
def FetchStage.gathered? : FetchStage → Option Gathered
  | .begun _ => none
  | .held gathered _ => some gathered
  | .waiting gathered _ => some gathered

/-! ### Calls at a store -/

namespace Store

/-- The store with its next round of a kind in the slot. -/
def occupy (s : Store) : RoundKind → Store
  | .list => { s with listSlot := s.listSlot.enter.2 }
  | .names => { s with namesSlot := s.namesSlot.enter.2 }

/-- What a round that starts now asks for, if one may start. -/
def items? (s : Store) : RoundKind → Option (List String)
  | .list => if s.session.isLoggedIn then some s.registrations.toFetch else none
  | .names => s.directory.nodes

/-- The ways in which a call can go: it is not admitted, it joins the round in the slot, or it
starts the next round in a free slot. -/
inductive Calls (s : Store) (kind : RoundKind) : Prop
  | declined (refused : s.items? kind = none) (call : s.call kind = (none, s))
  | joined {round : Nat} {items : List String} (admitted : s.items? kind = some items)
      (occupied : s.occupant kind = some round)
      (call : s.call kind = (some (.joined round, items), s))
  | started {items : List String} (admitted : s.items? kind = some items)
      (vacant : s.occupant kind = none)
      (call : s.call kind = (some (.started (s.nextRound kind), items), s.occupy kind))

lemma calls (s : Store) (kind : RoundKind) : s.Calls kind := by
  cases kind with
  | list =>
    by_cases loggedIn : s.session.isLoggedIn
    · have admitted : s.items? .list = some s.registrations.toFetch := by simp [items?, loggedIn]
      cases occupied : s.listSlot.current with
      | none => exact .started admitted occupied (by
          simp [call, callList, loggedIn, occupied, nextRound, occupy])
      | some round => exact .joined admitted occupied (by
          simp [call, callList, loggedIn, occupied])
    · exact .declined (by simp [items?, loggedIn]) (by simp [call, callList, loggedIn])
  | names =>
    cases known : s.directory.nodes with
    | none => exact .declined (by simp [items?, known]) (by simp [call, callNames, known])
    | some nodes =>
      have admitted : s.items? .names = some nodes := by simp [items?, known]
      cases occupied : s.namesSlot.current with
      | none => exact .started admitted occupied (by
          simp [call, callNames, known, occupied, nextRound, occupy])
      | some round => exact .joined admitted occupied (by
          simp [call, callNames, known, occupied])

lemma call_of_vacant {s : Store} {kind : RoundKind} {items : List String}
    (vacant : s.occupant kind = none) (admitted : s.items? kind = some items) :
    (s.call kind).1 = some (.started (s.nextRound kind), items) := by
  cases s.calls kind with
  | declined refused =>
    rw [refused] at admitted
    cases admitted
  | joined _ occupied =>
    rw [vacant] at occupied
    cases occupied
  | started admitted' _ call =>
    rw [admitted'] at admitted
    rw [call, Option.some.inj admitted]

lemma call_of_occupied {s : Store} {kind : RoundKind} {round : Nat} {items : List String}
    (occupied : s.occupant kind = some round) (admitted : s.items? kind = some items) :
    (s.call kind).1 = some (.joined round, items) := by
  cases s.calls kind with
  | declined refused =>
    rw [refused] at admitted
    cases admitted
  | joined admitted' occupied' call =>
    rw [admitted'] at admitted
    rw [occupied'] at occupied
    rw [call, Option.some.inj admitted, Option.some.inj occupied]
  | started _ vacant =>
    rw [vacant] at occupied
    cases occupied

lemma occupant_occupy {s : Store} {kind : RoundKind} (vacant : s.occupant kind = none)
    (other : RoundKind) :
    (s.occupy kind).occupant other
      = if kind = other then some (s.nextRound kind) else s.occupant other := by
  cases kind <;> cases other <;> simp_all [occupy, occupant, nextRound]

lemma nextRound_occupy {s : Store} {kind : RoundKind} (vacant : s.occupant kind = none)
    (other : RoundKind) :
    (s.occupy kind).nextRound other
      = if kind = other then s.nextRound kind + 1 else s.nextRound other := by
  cases kind <;> cases other <;> simp_all [occupy, occupant, nextRound]

@[simp] lemma result?_occupy (s : Store) (kind other : RoundKind) (round : Nat) :
    (s.occupy kind).result? other round = s.result? other round := by
  have ended (slot : Slot Update) : slot.enter.2.ended = slot.ended := by
    unfold Slot.enter; split <;> rfl
  have ended' (slot : Slot Listing) : slot.enter.2.ended = slot.ended := by
    unfold Slot.enter; split <;> rfl
  cases kind <;> cases other <;> simp [occupy, result?, Slot.outcome?, ended, ended']

@[simp] lemma latest_occupy (s : Store) (kind : RoundKind) :
    (s.occupy kind).latest = s.latest := by cases kind <;> rfl

@[simp] lemma listing_occupy (s : Store) (kind : RoundKind) :
    (s.occupy kind).listing = s.listing := by cases kind <;> rfl

@[simp] lemma channel_occupy (s : Store) (kind : RoundKind) :
    (s.occupy kind).channel = s.channel := by cases kind <;> rfl

end Store

namespace Timeline

variable {σ : Type}

/-! ### The end of a round at a store -/

/-- What all who wait for a round get at its end. -/
def ending (store : Store) (round now : Nat) : Gathered → CallResult
  | .list (.ok answer) => .listed (some (.ok ⟨round, answer.flatten, now⟩))
  | .list (.failed e) => .listed (some (.error e))
  | .list (.broke text) => .listed (some (.error (Slot.breakdown round text)))
  | .names replies =>
    match breakdown? replies with
    | some text => .named (some (.error (Slot.breakdown round text)))
    | none => .named (some (.ok ⟨round, store.knownNames.after (results replies)⟩))

/-- Only the slot of its kind is freed by a round, only if the round is in it, and only if the
round does not break off. -/
lemma occupant_conclude (s : Store) (round now : Nat) (g : Gathered) (kind : RoundKind) :
    (conclude s round now g).occupant kind
      = if g.kind = kind ∧ g.breaks = false ∧ s.occupant kind = some round then none
        else s.occupant kind := by
  cases g with
  | list reply =>
    cases reply <;> cases kind <;>
      simp [conclude, Store.endList, Store.occupant, Gathered.kind, Gathered.breaks, Slot.finish,
        Slot.breakOff]
  | names replies =>
    cases broke : breakdown? replies <;> cases kind <;>
      simp [conclude, broke, Store.endNames, Store.breakNames, Store.occupant, Gathered.kind,
        Gathered.breaks, Slot.finish, Slot.breakOff]

@[simp] lemma nextRound_conclude (s : Store) (round now : Nat) (g : Gathered)
    (kind : RoundKind) : (conclude s round now g).nextRound kind = s.nextRound kind := by
  cases g with
  | list reply => cases reply <;> cases kind <;> rfl
  | names replies =>
    cases broke : breakdown? replies <;> cases kind <;> simp only [conclude, broke] <;> rfl

/-- The end of a round settles what those get who wait for it, and nothing else. -/
lemma result?_conclude (s : Store) (round now : Nat) (g : Gathered) (kind : RoundKind)
    (other : Nat) :
    (conclude s round now g).result? kind other
      = if g.kind = kind ∧ round = other then some (ending s round now g)
        else s.result? kind other := by
  cases g with
  | list reply =>
    cases reply <;> cases kind <;> by_cases same : round = other <;>
      simp [conclude, Store.endList, Store.result?, Gathered.kind, ending, same]
  | names replies =>
    cases broke : breakdown? replies <;> cases kind <;> by_cases same : round = other <;>
      simp [conclude, broke, Store.endNames, Store.breakNames, Store.result?, Gathered.kind,
        ending, same]

/-! ### Work -/

/-- What rounds depend on. -/
structure Work where
  store : Store
  fetches : List Fetch
  callers : List Caller
  questions : List (Nat × Question)

namespace Work

/-- The fetches of one kind. -/
def fetchesOf (w : Work) (kind : RoundKind) : List Fetch := w.fetches.filter fun f => f.kind = kind

/-- The work after the next round of a kind started. -/
def start (w : Work) (kind : RoundKind) (items : List String) : Work :=
  { w with
    store := w.store.occupy kind
    fetches := w.fetches ++ [⟨kind, w.store.nextRound kind, .begun items⟩] }

/-- The work with a fetch at another stage. -/
def setStage (w : Work) (kind : RoundKind) (round : Nat) (stage : FetchStage) : Work :=
  { w with
    fetches := w.fetches.map fun f =>
      if f.kind = kind ∧ f.round = round then { f with stage := stage } else f }

/-- The work after more questions. -/
def pose (w : Work) (questions : List (Nat × Question)) : Work :=
  { w with questions := questions ++ w.questions }

/-- The work after the end of a round. -/
def finish (w : Work) (kind : RoundKind) (round now : Nat) (gathered : Gathered) : Work :=
  { w with
    store := conclude w.store round now gathered
    fetches := w.fetches.filter fun f => ¬ (f.kind = kind ∧ f.round = round) }

/-- The work with a caller at another stage. -/
def setCaller (w : Work) (id : Nat) (stage : CallerStage) : Work :=
  { w with callers := w.callers.map fun c => if c.id = id then { c with stage := stage } else c }

/-- The work with another caller in the background. -/
def spawn (w : Work) (kind : RoundKind) : Work :=
  { w with callers := w.callers ++ [⟨w.callers.length, kind, .begun⟩] }

/-- The work after a caller in the background gave up. -/
def abandon (w : Work) (id : Nat) : Work :=
  { w with
    callers := w.callers.map fun c =>
      if c.id = id then
        match c.stage with
        | .finished _ => c
        | _ => { c with stage := .aborted }
      else c }

section

variable (w : Work) (kind : RoundKind) (round now id : Nat) (items : List String)
  (stage : FetchStage) (questions : List (Nat × Question)) (gathered : Gathered)
  (callerStage : CallerStage)

@[simp] lemma store_start : (w.start kind items).store = w.store.occupy kind := rfl

@[simp] lemma store_setStage : (w.setStage kind round stage).store = w.store := rfl

@[simp] lemma store_pose : (w.pose questions).store = w.store := rfl

@[simp] lemma store_finish :
    (w.finish kind round now gathered).store = conclude w.store round now gathered := rfl

@[simp] lemma store_setCaller : (w.setCaller id callerStage).store = w.store := rfl

@[simp] lemma store_spawn : (w.spawn kind).store = w.store := rfl

@[simp] lemma store_abandon : (w.abandon id).store = w.store := rfl

@[simp] lemma questions_setStage :
    (w.setStage kind round stage).questions = w.questions := rfl

@[simp] lemma questions_pose : (w.pose questions).questions = questions ++ w.questions := rfl

end

end Work

/-- The part of a timeline that rounds depend on. -/
def work (t : Timeline σ) : Work := ⟨t.store, t.fetches, t.callers, t.questions⟩

/-! ### Tasks and notes -/

/-- The tasks that are ready when another one is made ready. -/
def woken (ready : List TaskId) (task : TaskId) : List TaskId :=
  if task ∈ ready then ready else ready ++ [task]

lemma wake_eq (t : Timeline σ) (task : TaskId) :
    t.wake task = { t with ready := woken t.ready task } := by
  unfold wake woken
  split <;> rfl

/-- Making tasks ready changes which tasks are ready, and nothing else. -/
lemma wakeAll_eq (t : Timeline σ) (tasks : List TaskId) :
    t.wakeAll tasks = { t with ready := tasks.foldl woken t.ready } := by
  induction tasks generalizing t with
  | nil => rfl
  | cons task tasks ih =>
    refine (ih (t.wake task)).trans ?_
    rw [wake_eq]
    rfl

/-- Noting things changes what is noted, and nothing else. -/
lemma noteAll_eq (t : Timeline σ) (notes : List Note) :
    t.noteAll notes = { t with notes := notes.reverse ++ t.notes } := by
  induction notes generalizing t with
  | nil => rfl
  | cons n notes ih =>
    rw [noteAll, List.foldl_cons]
    refine (ih (t.note n)).trans ?_
    simp [note]

/-! ### What leaves the work alone -/

@[simp] lemma work_wake (t : Timeline σ) (task : TaskId) : (t.wake task).work = t.work := by
  rw [wake_eq]
  rfl

@[simp] lemma work_arm (t : Timeline σ) (due : Nat) (task : TaskId) :
    (t.arm due task).work = t.work := rfl

@[simp] lemma work_noteAll (t : Timeline σ) (notes : List Note) :
    (t.noteAll notes).work = t.work := by
  rw [noteAll_eq]
  rfl

@[simp] lemma work_moveTo (t : Timeline σ) (time : Nat) : (t.moveTo time).work = t.work := by
  rw [moveTo, wakeAll_eq]
  rfl

@[simp] lemma work_see (t : Timeline σ) (kind : RoundKind) (round : Nat) :
    (t.see kind round).2.work = t.work := by
  unfold see
  split <;> rfl

@[simp] lemma work_changeLoop (t : Timeline σ) (id : Nat)
    (change : Poller.Loop → Poller.Loop) : (t.changeLoop id change).work = t.work := rfl

@[simp] lemma work_setSchedule (t : Timeline σ) (id : Nat) (which : Poller.Which)
    (s : Poller.Schedule) : (t.setSchedule id which s).work = t.work := rfl

@[simp] lemma work_fail (t : Timeline σ) (which : Poller.Which) :
    (t.fail which).work = t.work := rfl

/-! ### What changes the work -/

/-- What a call does: nothing to the work unless it starts a round. -/
inductive CallWork (w : Work) (kind : RoundKind) :
    Option (Admission × List String) → Option Nat → Work → Prop
  | declined (refused : w.store.items? kind = none) : CallWork w kind none none w
  | joined {round : Nat} {items : List String} (admitted : w.store.items? kind = some items)
      (occupied : w.store.occupant kind = some round) :
      CallWork w kind (some (.joined round, items)) (some round) w
  | started {items : List String} (admitted : w.store.items? kind = some items)
      (vacant : w.store.occupant kind = none) :
      CallWork w kind (some (.started (w.store.nextRound kind), items))
        (some (w.store.nextRound kind)) (w.start kind items)

lemma work_call (t : Timeline σ) (kind : RoundKind) :
    CallWork t.work kind (t.store.call kind).1 (t.call kind).1 (t.call kind).2.work := by
  cases t.store.calls kind with
  | declined refused call =>
    have same : (t.call kind).2.work = t.work := by
      cases kind <;> simp only [Timeline.call, call] <;> rfl
    have none : (t.call kind).1 = none := by cases kind <;> simp only [Timeline.call, call]
    rw [same, none, call]
    exact .declined refused
  | joined admitted occupied call =>
    simp only [Timeline.call, call]
    exact .joined admitted occupied
  | started admitted vacant call =>
    simp only [Timeline.call, call, work_wake]
    exact .started admitted vacant

@[simp] lemma callers_call (t : Timeline σ) (kind : RoundKind) :
    (t.call kind).2.callers = t.callers := by
  have called := t.work_call kind
  generalize (t.store.call kind).1 = met, (t.call kind).1 = round,
    work : (t.call kind).2.work = w at called
  have same : (t.call kind).2.callers = w.callers := congrArg Work.callers work
  rw [same]
  cases called <;> rfl

@[simp] lemma work_setStage (t : Timeline σ) (kind : RoundKind) (round : Nat)
    (stage : FetchStage) : (t.setStage kind round stage).work = t.work.setStage kind round stage :=
  rfl

@[simp] lemma work_setCaller (t : Timeline σ) (id : Nat) (stage : CallerStage) :
    (t.setCaller id stage).work = t.work.setCaller id stage := rfl

@[simp] lemma work_spawn (t : Timeline σ) (kind : RoundKind) :
    (t.spawn kind).2.work = t.work.spawn kind := by
  simp only [Timeline.spawn, work_wake]
  rfl

@[simp] lemma work_abandon (t : Timeline σ) (id : Nat) :
    (t.abandon id).work = t.work.abandon id := rfl

@[simp] lemma work_endRound (t : Timeline σ) (kind : RoundKind) (round : Nat)
    (gathered : Gathered) :
    (t.endRound kind round gathered).work = t.work.finish kind round t.now gathered := by
  simp only [endRound, wakeAll_eq, noteAll_eq]
  rfl

/-! ### Answers of nodes -/

lemma breakdown?_eq_none_iff {replies : List (String × Reply (List String))} :
    breakdown? replies = none ↔ ∀ r ∈ replies, r.2.breaks = false := by
  induction replies with
  | nil => simp [breakdown?]
  | cons r replies ih =>
    obtain ⟨node, reply⟩ := r
    cases reply <;> simp [breakdown?, Reply.breaks, ih]

/-- What breaks a round off is one of its replies. -/
lemma mem_of_breakdown? {replies : List (String × Reply (List String))} {text : String}
    (broke : breakdown? replies = some text) : ∃ node, (node, .broke text) ∈ replies := by
  induction replies with
  | nil => cases broke
  | cons r replies ih =>
    obtain ⟨node, reply⟩ := r
    cases reply with
    | broke own =>
      obtain rfl := Option.some.inj broke
      exact ⟨node, List.mem_cons_self⟩
    | ok | failed =>
      obtain ⟨other, mem⟩ := ih broke
      exact ⟨other, List.mem_cons_of_mem _ mem⟩

section

variable {answers : List (String × Answer (Reply (List String)))}

/-- The answers are waited for until the earliest breakdown among them. -/
lemma exists_earliest {a : String × Answer (Reply (List String))} (mem : a ∈ answers)
    (broke : a.2.reply.breaks = true) :
    ∃ b ∈ answers, b.2.reply.breaks = true ∧ b.2.delay = lasts answers ∧
      ∀ c ∈ answers, c.2.reply.breaks = true → b.2.delay ≤ c.2.delay := by
  let delays := (answers.filter fun a => a.2.reply.breaks).map fun a => a.2.delay
  have isDelay {c : String × Answer (Reply (List String))} (mem : c ∈ answers)
      (broke : c.2.reply.breaks = true) : c.2.delay ∈ delays :=
    List.mem_map_of_mem (List.mem_filter.mpr ⟨mem, broke⟩)
  cases least : delays.min? with
  | none =>
    rw [List.min?_eq_none_iff.mp least] at isDelay
    cases isDelay mem broke
  | some first =>
    obtain ⟨isFirst, below⟩ := List.min?_eq_some_iff.mp least
    obtain ⟨b, isBroken, rfl⟩ := List.mem_map.mp isFirst
    obtain ⟨isThere, broke⟩ := List.mem_filter.mp isBroken
    have time : lasts answers = b.2.delay := by
      simp only [lasts]
      rw [show List.min? _ = some b.2.delay from least]
      rfl
    exact ⟨b, isThere, broke, time.symm, fun c mem broke => below _ (isDelay mem broke)⟩

/-- A round breaks off with the earliest breakdown. -/
lemma earliest_of_breakdown? {text : String} (broke : breakdown? (arrived answers) = some text) :
    ∃ a ∈ answers, a.2.reply = .broke text ∧ a.2.delay = lasts answers ∧
      ∀ b ∈ answers, b.2.reply.breaks = true → a.2.delay ≤ b.2.delay := by
  obtain ⟨node, mem⟩ := mem_of_breakdown? broke
  obtain ⟨a, hasCome, same⟩ := List.mem_map.mp mem
  obtain ⟨isThere, inTime⟩ := List.mem_filter.mp hasCome
  obtain ⟨rfl, reply⟩ := Prod.mk.inj same
  have breaks : a.2.reply.breaks = true := by
    rw [reply]
    rfl
  obtain ⟨first, isFirst, firstBroke, time, least⟩ := exists_earliest isThere breaks
  have notLater := of_decide_eq_true inTime
  have same : a.2.delay = first.2.delay := by
    have notBefore := least a isThere breaks
    omega
  exact ⟨a, isThere, reply, same.trans time, fun b mem broke => same ▸ least b mem broke⟩

/-- A round that does not break off waits for all answers. -/
lemma arrived_of_unbroken (unbroken : breakdown? (arrived answers) = none) :
    arrived answers = answers.map fun a => (a.1, a.2.reply) := by
  have whole (a : String × Answer (Reply (List String))) (mem : a ∈ answers) :
      a.2.reply.breaks = false := by
    cases broke : a.2.reply.breaks with
    | false => rfl
    | true =>
      obtain ⟨first, isFirst, firstBroke, time, -⟩ := exists_earliest mem broke
      have hasCome : (first.1, first.2.reply) ∈ arrived answers :=
        List.mem_map_of_mem (List.mem_filter.mpr ⟨isFirst, decide_eq_true (Nat.le_of_eq time)⟩)
      cases firstBroke.symm.trans (breakdown?_eq_none_iff.mp unbroken _ hasCome)
  have none : (answers.filter fun a => a.2.reply.breaks) = [] :=
    List.filter_eq_nil_iff.mpr fun a mem => by simp [whole a mem]
  have time : lasts answers = ((answers.map fun a => a.2.delay).max?).getD 0 := by
    simp only [lasts, none]
    rfl
  refine congrArg (List.map _) (List.filter_eq_self.mpr fun a mem => decide_eq_true ?_)
  cases longest : (answers.map fun a => a.2.delay).max? with
  | none =>
    rw [List.map_eq_nil_iff.mp (List.max?_eq_none_iff.mp longest)] at mem
    cases mem
  | some last =>
    rw [time, longest]
    exact (List.max?_eq_some_iff.mp longest).2 _ (List.mem_map_of_mem mem)

end

/-! ### Asking -/

/-- The questions of a round: a list round asks one, a names round at most one for each node. -/
inductive Poses (items : List String) : RoundKind → List (Nat × Question) → Prop
  | list (time : Nat) : Poses items .list [(time, .metrics items)]
  | names (questions : List (Nat × Question)) (few : questions.length ≤ items.length)
      (each : ∀ q ∈ questions, ∃ node ∈ items, ∃ namesNamespace, q.2 = .names node namesNamespace) :
      Poses items .names questions

/-- What a node answers that is asked for its names now. -/
def nodeAnswer (S : Source σ) (t : Timeline σ) (node : String) : Answer (Reply (List String)) :=
  (S.names t.source t.store.session t.now node t.store.namesNamespace).answer

/-- A timeline after it asked a node for its names. -/
def afterNode (S : Source σ) (t : Timeline σ) (node : String) : Timeline σ :=
  let asked := S.names t.source t.store.session t.now node t.store.namesNamespace
  { t with
    source := asked.state
    questions := (t.now, .names node t.store.namesNamespace) :: t.questions }.noteAll asked.notes

lemma askNames_cons (S : Source σ) (node : String) (rest : List String) (t : Timeline σ) :
    askNames S (node :: rest) t
      = (let after := t.afterNode S node
        let more := askNames S rest after
        match (t.nodeAnswer S node).reply with
        | .broke _ =>
          if after.namesOpen ∧ (t.nodeAnswer S node).delay = 0 then
            ([(node, t.nodeAnswer S node)], after)
          else ((node, t.nodeAnswer S node) :: more.1, more.2)
        | _ => ((node, t.nodeAnswer S node) :: more.1, more.2)) := rfl

/-- A timeline that has consulted its source: the state of the source, the questions and the notes
are others. -/
def consulted (t : Timeline σ) (source : σ) (questions : List (Nat × Question))
    (notes : List Note) : Timeline σ :=
  { t with
    source := source
    questions := questions
    notes := notes }

lemma askNames_eq (S : Source σ) (items : List String) (t : Timeline σ) :
    ∃ source questions notes, (askNames S items t).2 = t.consulted source questions notes := by
  induction items generalizing t with
  | nil => exact ⟨t.source, t.questions, t.notes, rfl⟩
  | cons node rest ih =>
    have first : ∃ source questions notes,
        t.afterNode S node = t.consulted source questions notes := ⟨_, _, _, noteAll_eq _ _⟩
    have more : ∃ source questions notes,
        (askNames S rest (t.afterNode S node)).2 = t.consulted source questions notes := by
      obtain ⟨source, questions, notes, more⟩ := ih (t.afterNode S node)
      refine ⟨source, questions, notes, more.trans ?_⟩
      rw [afterNode, noteAll_eq]
      rfl
    rw [askNames_cons]
    dsimp only
    split
    · split
      · exact first
      · exact more
    · exact more

/-- Asking the questions of a round consults the source and does nothing else. -/
lemma ask_eq (S : Source σ) (t : Timeline σ) (kind : RoundKind) (items : List String) :
    ∃ source questions notes,
      (ask S t kind items).2.2.2 = t.consulted source questions notes := by
  cases kind with
  | list => exact ⟨_, _, _, noteAll_eq _ _⟩
  | names => exact askNames_eq S items t

lemma work_afterNode (S : Source σ) (t : Timeline σ) (node : String) :
    (t.afterNode S node).work = t.work.pose [(t.now, .names node t.store.namesNamespace)] :=
  work_noteAll { t with
    source := _
    questions := _ } _

lemma work_askNames (S : Source σ) (items : List String) (t : Timeline σ) :
    ∃ questions, Poses items .names questions ∧
      (askNames S items t).2.work = t.work.pose questions := by
  induction items generalizing t with
  | nil => exact ⟨[], .names [] (by simp) (by simp), rfl⟩
  | cons node rest ih =>
    let question : Nat × Question := (t.now, .names node t.store.namesNamespace)
    have alone : Poses (node :: rest) .names [question] :=
      .names _ (by simp) (by simp [question])
    obtain ⟨questions, posed, work⟩ := ih (t.afterNode S node)
    have more : (askNames S rest (t.afterNode S node)).2.work
        = t.work.pose (questions ++ [question]) := by
      rw [work, work_afterNode]
      simp [Work.pose, question]
    have all : Poses (node :: rest) .names (questions ++ [question]) := by
      cases posed with
      | names _ few each =>
        refine .names _ (by simpa using few) fun q mem => ?_
        rcases List.mem_append.mp mem with mem | mem
        · obtain ⟨n, there, rest⟩ := each q mem
          exact ⟨n, List.mem_cons_of_mem _ there, rest⟩
        · rw [List.mem_singleton.mp mem]
          exact ⟨node, List.mem_cons_self, _, rfl⟩
    rw [askNames_cons]
    dsimp only
    split
    · split
      · exact ⟨_, alone, work_afterNode S t node⟩
      · exact ⟨_, all, more⟩
    · exact ⟨_, all, more⟩

/-- Asking adds the questions of the round and changes no other work. -/
lemma work_ask (S : Source σ) (t : Timeline σ) (kind : RoundKind) (items : List String) :
    ∃ questions, Poses items kind questions ∧
      (ask S t kind items).2.2.2.work = t.work.pose questions := by
  cases kind with
  | list =>
    refine ⟨[(t.now, .metrics items)], .list t.now, ?_⟩
    simp only [ask, askMetrics, work_noteAll]
    rfl
  | names => exact work_askNames S items t

lemma kind_ask (S : Source σ) (t : Timeline σ) (kind : RoundKind) (items : List String) :
    (ask S t kind items).1.kind = kind := by cases kind <;> rfl

end Timeline

end MetricWatch
