import MetricWatch.Proofs.Rounds.Listings
import MetricWatch.Proofs.Rounds.Snapshot
import MetricWatch.Proofs.Rounds.Unheard

/-!
# Subscribers

Every round that succeeds is published as an event, and a subscriber gets the events that are
published from its subscription on, whenever it takes them: one by one and in order, but for those
that were overwritten, of which it is told how many they are. What rounds do does not depend on
subscribers. The main statement is `Path.broadcast`.
-/

namespace MetricWatch

open Timeline

/-! ### Events -/

/-- The event that tells of a round with such a result. -/
def CallResult.event? : CallResult → Option Event
  | .listed (some (.ok u)) => some (.metricsUpdated u)
  | .named (some (.ok l)) => some (.namesUpdated l)
  | _ => none

/-- The event that is published when a mark is left. -/
def Mark.event? : Mark → Option Event
  | .ended _ _ _ _ result => result.event?
  | _ => none

/-- The events that are published along a record, latest first. -/
def events (marks : List Mark) : List Event := marks.filterMap Mark.event?

lemma events_cons (m : Mark) (marks : List Mark) :
    events (m :: marks) = m.event?.toList ++ events marks := by
  cases event : m.event? <;> simp [events, event]

/-- The channel after a mark is left. -/
def Channel.after (c : Channel Event) : Mark → Channel Event
  | .ended _ _ _ _ result =>
    match result.event? with
    | some e => c.send e
    | none => c
  | .chore (.subscribe subscriber) => c.subscribe subscriber
  | .chore (.unsubscribe subscriber) => c.unsubscribe subscriber
  | .chore (.receive subscriber) =>
    match c.receive subscriber with
    | some (_, c') => c'
    | none => c
  | _ => c

namespace Channel

variable {c c' : Channel Event} {m : Mark} {id : String} {past behind : List Event}
  {receipt : Receipt Event}

lemma after_receive (received : c.receive id = some (receipt, c')) :
    c.after (.chore (.receive id)) = c' := by simp only [after, received]

/-- A mark leaves a channel with the event that it publishes, with the same capacity, and with the
same place for everyone whose mark it is not. -/
lemma after_spec (c : Channel Event) (m : Mark) :
    (c.after m).sent = m.event?.toList ++ c.sent ∧ (c.after m).capacity = c.capacity ∧
      ∀ id, m.subscriber? ≠ some id → (c.after m).places.get? id = c.places.get? id := by
  cases m with
  | ended kind round time g result =>
    cases published : result.event? with
    | some e => simp [after, Mark.event?, published, send]
    | none => simp [after, Mark.event?, published]
  | chore chore =>
    cases chore with
    | subscribe subscriber =>
      refine ⟨rfl, rfl, fun id others => ?_⟩
      have differ : subscriber ≠ id := fun same => others (congrArg some same)
      simp only [after, subscribe, Json.Members.get?_put, if_neg differ]
    | unsubscribe subscriber =>
      refine ⟨rfl, rfl, fun id others => ?_⟩
      have differ : subscriber ≠ id := fun same => others (congrArg some same)
      simp only [after, unsubscribe, Json.Members.get?_erase, if_neg differ]
    | receive subscriber =>
      cases received : c.receive subscriber with
      | none => simp [after, received, Mark.event?]
      | some got =>
        obtain ⟨receipt, c'⟩ := got
        obtain ⟨next, rfl⟩ := receive_eq received
        rw [after_receive received]
        refine ⟨rfl, rfl, fun id others => ?_⟩
        have differ : subscriber ≠ id := fun same => others (congrArg some same)
        rw [Json.Members.get?_put, if_neg differ]
    | _ => exact ⟨rfl, rfl, fun _ _ => rfl⟩
  | _ => exact ⟨rfl, rfl, fun _ _ => rfl⟩

/-- Whoever has no hand in a mark is behind by its event as well. -/
lemma Holds.after (h : c.Holds id past behind) (others : m.subscriber? ≠ some id) :
    (c.after m).Holds id past (m.event?.toList ++ behind) := by
  obtain ⟨sent, -, place⟩ := c.after_spec m
  refine ⟨?_, (place id others).trans h.place⟩
  rw [sent, h.sent, List.append_assoc]

end Channel

namespace Timeline

variable {σ : Type} {S : Source σ} {t₀ t t' t₁ : Timeline σ} {marks later : List Mark} {m : Mark}
  {w w' : Work} {id : String}

/-! ### What is published -/

/-- At the end of a round its event is sent, if it has one. -/
lemma channel_conclude (s : Store) (round now : Nat) (g : Gathered) :
    (conclude s round now g).channel
      = match (ending s round now g).event? with
        | some e => s.channel.send e
        | none => s.channel := by
  cases g with
  | list reply => cases reply <;> rfl
  | names replies =>
    cases broke : breakdown? replies <;> simp only [conclude, ending, broke] <;> rfl

/-- What becomes of the channel is on record. -/
lemma Change.channel (change : Change w m w') : w'.store.channel = w.store.channel.after m := by
  cases change with
  | declined | joined =>
    rw [Work.store_tell]
    rfl
  | started =>
    rw [Work.store_tell, Work.store_start, Store.channel_occupy]
    rfl
  | ended => exact channel_conclude ..
  | chore c =>
    cases c with
    | receive subscriber =>
      cases received : w.store.channel.receive subscriber <;>
        simp only [Store.perform, Channel.after, received]
    | _ => rfl
  | served | spawned | abandoned | asked | delayed | aside => rfl

/-- What is published is what the record says, and the capacity stays. -/
lemma Path.channel (path : Path S t₀ marks t) :
    t.store.channel.sent = events marks ++ t₀.store.channel.sent ∧
      t.store.channel.capacity = t₀.store.channel.capacity := by
  induction path with
  | refl => exact ⟨rfl, rfl⟩
  | @tail marks t t' m _ move ih =>
    obtain ⟨sent, capacity⟩ := ih
    have channel : t'.store.channel = t.store.channel.after m := move.change.channel
    obtain ⟨sent', capacity', -⟩ := t.store.channel.after_spec m
    rw [channel, sent', capacity', sent, capacity, events_cons, List.append_assoc]
    exact ⟨rfl, rfl⟩

/-- A store has published what is on its record. -/
lemma Run.sent_eq (run : Run S marks t) : t.store.channel.sent = events marks := by
  obtain ⟨t₀, ⟨_, _, _, _, _, rfl⟩, path⟩ := run
  exact path.channel.1.trans (List.append_nil _)

end Timeline

/-- Events are different if updates and listings are. -/
lemma nodup_of_told {events : List Event} (updates : (events.filterMap Event.update?).Nodup)
    (listings : (events.filterMap Event.listing?).Nodup) : events.Nodup := by
  induction events with
  | nil => exact .nil
  | cons e events ih =>
    cases e with
    | metricsUpdated u =>
      have isNew := List.nodup_cons.mp updates
      refine List.nodup_cons.mpr ⟨fun again => isNew.1 ?_, ih isNew.2 listings⟩
      exact List.mem_filterMap.mpr ⟨_, again, rfl⟩
    | namesUpdated l =>
      have isNew := List.nodup_cons.mp listings
      refine List.nodup_cons.mpr ⟨fun again => isNew.1 ?_, ih updates isNew.2⟩
      exact List.mem_filterMap.mpr ⟨_, again, rfl⟩

lemma round_listings (rounds : List (Nat × Replies)) :
    (listings rounds).map Listing.round = rounds.map Prod.fst := by
  induction rounds with
  | nil => rfl
  | cons first rounds ih => exact congrArg (first.1 :: ·) ih

namespace Timeline

variable {σ : Type} {S : Source σ} {t₀ t t' t₁ : Timeline σ} {marks later : List Mark} {m : Mark}
  {id : String}

/-- No event is published twice. -/
lemma Run.nodup_events (run : Run S marks t) : (events marks).Nodup := by
  have distinct {rounds : List Nat} (decreasing : rounds.Pairwise (· > ·)) : rounds.Nodup :=
    decreasing.imp fun above => Nat.ne_of_gt above
  rw [← run.sent_eq]
  refine nodup_of_told (.of_map Update.round ?_) (.of_map Listing.round ?_)
  · have told : t.store.channel.sent.filterMap Event.update? = updates marks := run.published.2
    rw [told]
    exact distinct run.updates_decreasing
  · have announced : t.store.channel.sent.filterMap Event.listing? = listings (completions marks) :=
      run.announced.2
    rw [announced, round_listings]
    exact distinct ((run.orderly.ends_decreasing .names).sublist (completions_sublist marks))

/-- A subscriber that gets an update finds it in the store, or one of a later round. -/
lemma Run.latest_of_sent (run : Run S marks t) {u : Update}
    (sent : .metricsUpdated u ∈ t.store.channel.sent) :
    ∃ u', t.store.latest = some u' ∧ (u' = u ∨ u.round < u'.round) := by
  obtain ⟨latest, told⟩ := run.published
  have isUpdate : u ∈ updates marks := told ▸ List.mem_filterMap.mpr ⟨_, sent, rfl⟩
  have decreasing := run.updates_decreasing
  rw [latest]
  cases all : updates marks with
  | nil =>
    rw [all] at isUpdate
    cases isUpdate
  | cons last earlier =>
    rw [all] at isUpdate decreasing
    refine ⟨last, rfl, ?_⟩
    rcases List.mem_cons.mp isUpdate with rfl | isEarlier
    · exact .inl rfl
    · exact .inr (List.rel_of_pairwise_cons decreasing (List.mem_map_of_mem isEarlier))

/-! ### Listening -/

/-- What happens while someone listens who does not leave, and what the subscriber gets, both latest
first. -/
inductive Listens (S : Source σ) (id : String) (t₁ : Timeline σ) :
    List Mark → List (Receipt Event) → Timeline σ → Prop
  | start : Listens S id t₁ [] [] t₁
  | receive {later : List Mark} {heard : List (Receipt Event)} {t t' : Timeline σ}
      {receipt : Receipt Event} {channel : Channel Event} (before : Listens S id t₁ later heard t)
      (received : t.store.channel.receive id = some (receipt, channel))
      (move : Move S t (.chore (.receive id)) t') :
      Listens S id t₁ (.chore (.receive id) :: later) (receipt :: heard) t'
  | other {later : List Mark} {heard : List (Receipt Event)} {t t' : Timeline σ} {m : Mark}
      (before : Listens S id t₁ later heard t) (move : Move S t m t')
      (others : m.subscriber? ≠ some id) : Listens S id t₁ (m :: later) heard t'

namespace Listens

variable {heard : List (Receipt Event)}

lemma path (listens : Listens S id t₁ later heard t) : Path S t₁ later t := by
  induction listens with
  | start => exact .refl
  | receive _ _ move ih | other _ move _ ih => exact ih.tail move

/-- What a subscriber got accounts for all but what it is behind by. -/
lemma accounted (listens : Listens S id t₁ later heard t)
    (subscribed : t₁.store.channel.Holds id t₁.store.channel.sent []) :
    ∃ past behind, events later = behind ++ past ∧ Channel.Accounts heard past ∧
      t.store.channel.Holds id (past ++ t₁.store.channel.sent) behind := by
  induction listens with
  | start => exact ⟨[], [], rfl, .start, subscribed⟩
  | @receive later heard t t' receipt channel _ received move ih =>
    obtain ⟨past, behind, published, accounts, holds⟩ := ih
    obtain ⟨receipt', taken, left, channel', next, received', holds'⟩ := holds.receive
    obtain ⟨rfl, rfl⟩ := Prod.mk.inj (Option.some.inj (received'.symm.trans received))
    have after : t'.store.channel = t.store.channel.after (.chore (.receive id)) :=
      move.change.channel
    rw [Channel.after_receive received] at after
    refine ⟨taken ++ past, left, ?_, accounts.next next, ?_⟩
    · rw [← List.append_assoc, ← next.behind_eq]
      exact published
    · rw [after, List.append_assoc]
      exact holds'
  | @other later heard t t' m _ move others ih =>
    obtain ⟨past, behind, published, accounts, holds⟩ := ih
    have after : t'.store.channel = t.store.channel.after m := move.change.channel
    refine ⟨past, m.event?.toList ++ behind, ?_, accounts, ?_⟩
    · rw [events_cons, published, List.append_assoc]
    · rw [after]
      exact holds.after others

end Listens

/-! ### The main statement -/

/-- Whether a subscriber would be told that nothing comes any more: there is nothing left for it,
and nothing keeps the store. -/
def IsClosed (t : Timeline σ) (id : String) : Prop :=
  (∃ channel, t.store.channel.receive id = some (.none, channel)) ∧ t.isStoreKept = false

/-- A fetch keeps the store of its round. -/
lemma fetches_of_released (released : t.isStoreKept = false) : t.fetches = [] := by
  simp only [isStoreKept, Bool.or_eq_false_iff, Bool.not_eq_false', List.isEmpty_iff] at released
  exact released.1.2

/-- A store that nothing keeps publishes nothing. -/
lemma Move.silent (move : Move S t m t') (released : t.isStoreKept = false) :
    t'.store.channel.sent = t.store.channel.sent := by
  have quiet : m.event? = none := by
    cases m with
    | ended kind round time g result =>
      obtain ⟨-, f, isThere, -⟩ := move.of_ended
      rw [fetches_of_released released] at isThere
      cases isThere
    | _ => rfl
  have sent := (Path.single move).channel.1
  rw [events_cons, quiet] at sent
  exact sent

/-- What a subscriber has got of the events that were published since it subscribed: some of them
are past, and it is behind by the others. The capacity asked for is `n`. -/
structure Heard (S : Source σ) (n : Nat) (id : String) (later : List Mark)
    (heard : List (Receipt Event)) (t : Timeline σ) (past behind : List Event) : Prop where
  /-- What is past are the oldest of the events that were published since it subscribed, -/
  published : events later = behind ++ past
  /-- and its receipts account for them, one by one and in order. -/
  accounted : Channel.Accounts heard past
  /-- Next it gets the oldest that it is behind by. But when there are more than the capacity it is
  told how many more. -/
  next : ∃ receipt taken left channel, t.store.channel.receive id = some (receipt, channel) ∧
    Channel.Next t.store.channel.capacity behind receipt taken left
  /-- It misses nothing as long as it is not behind by more events than the capacity asked for. -/
  inTime : behind.length ≤ n → ∀ {missed channel},
    t.store.channel.receive id ≠ some (.lagged missed, channel)
  /-- When it gets an update the store shows this, or one of a later round. -/
  current : ∀ {u channel}, t.store.channel.receive id = some (.event (.metricsUpdated u), channel) →
    ∃ u', t.store.latest = some u' ∧ (u' = u ∨ u.round < u'.round)
  /-- When it is told that nothing comes any more, all that was published is past, no fetch is
  unfinished, and nothing is published by anything that still happens. -/
  closed : t.IsClosed id → behind = [] ∧ t.fetches = [] ∧
    ∀ {m t'}, Move S t m t' → t'.store.channel.sent = t.store.channel.sent

/-- How a store that was asked for a capacity of `n` publishes what its rounds bring. -/
structure Broadcast (S : Source σ) (n : Nat) (t₀ : Timeline σ) (marks : List Mark)
    (t : Timeline σ) : Prop where
  /-- The capacity is the one asked for, or one, rounded up to a power of two. -/
  capacity : IsLeast (Channel.powersFrom (max 1 n)) t.store.channel.capacity
  /-- What is published is what the rounds brought that succeeded. -/
  published : t.store.channel.sent = events marks
  /-- No event is published twice. -/
  distinct : (events marks).Nodup
  /-- Whoever subscribes gets the events that are published from then on. -/
  heard : ∀ {id : String} {t₁ t₂ : Timeline σ} {later : List Mark} {heard : List (Receipt Event)},
    Move S t (.chore (.subscribe id)) t₁ → Listens S id t₁ later heard t₂ →
      ∃ past behind, Heard S n id later heard t₂ past behind
  /-- Whatever else subscribers do, all but their places in the channel can be the same at every
  moment. -/
  beside : ∀ {marks' : List Mark}, withoutSubscribers marks' = withoutSubscribers marks →
    ∃ t', Path S t₀ marks' t' ∧ Beside S t₀ marks t marks' t'

lemma Listens.heard {n : Nat} {t₂ : Timeline σ} {heard : List (Receipt Event)} (run : Run S marks t)
    (enough : n ≤ t.store.channel.capacity) (subscribe : Move S t (.chore (.subscribe id)) t₁)
    (listens : Listens S id t₁ later heard t₂) :
    ∃ past behind, Heard S n id later heard t₂ past behind := by
  have subscribed : t₁.store.channel = t.store.channel.subscribe id := subscribe.change.channel
  obtain ⟨past, behind, published, accounted, holds⟩ := listens.accounted (by
    rw [subscribed]
    exact Channel.holds_subscribe ..)
  obtain ⟨receipt, taken, left, channel, next, received, -⟩ := holds.receive
  have capacity : t₂.store.channel.capacity = t.store.channel.capacity :=
    listens.path.channel.2.trans (congrArg Channel.capacity subscribed :)
  refine ⟨past, behind, published, accounted, ⟨_, _, _, _, received, next⟩, ?_, ?_, ?_⟩
  · intro few missed channel' lagged
    obtain ⟨rfl, -⟩ := Prod.mk.inj (Option.some.inj (received.symm.trans lagged))
    cases next with
    | lagged full some_ =>
      rw [List.length_append, full, capacity] at few
      have positive := List.length_pos_iff.mpr some_
      omega
  · intro u channel' update
    obtain ⟨rfl, -⟩ := Prod.mk.inj (Option.some.inj (received.symm.trans update))
    have isSent : .metricsUpdated u ∈ t₂.store.channel.sent := by
      cases next with
      | event =>
        rw [holds.sent]
        simp
    exact ((run.tail subscribe).trans listens.path).latest_of_sent isSent
  · rintro ⟨⟨channel', nothing⟩, released⟩
    obtain ⟨rfl, -⟩ := Prod.mk.inj (Option.some.inj (received.symm.trans nothing))
    have all : behind = [] := by
      cases next
      rfl
    exact ⟨all, fetches_of_released released, fun move => move.silent released⟩

/-- What rounds bring is broadcast to subscribers, on whom nothing depends. -/
theorem Path.broadcast {session : Session} {directory : Directory} {namesNamespace : String}
    {n : Nat} {source : σ}
    (path : Path S (start (.fresh session directory namesNamespace n) source) marks t) :
    Broadcast S n (start (.fresh session directory namesNamespace n) source) marks t := by
  have run : Run S marks t := ⟨_, ⟨_, _, _, _, _, rfl⟩, path⟩
  have capacity : IsLeast (Channel.powersFrom (max 1 n)) t.store.channel.capacity := by
    rw [path.channel.2]
    exact Channel.isLeast_capacity (max 1 n)
  have enough : n ≤ t.store.channel.capacity := Nat.le_trans (Nat.le_max_right 1 n) capacity.1.2
  exact ⟨capacity, run.sent_eq, run.nodup_events, Listens.heard run enough, path.beside⟩

/-- A timeline with a store that keeps one event and with two rounds to come, before it has any
subscriber and after. -/
def shortTimeline : Timeline Script :=
  let reply := Reply.ok (Script.plainAnswer ["m"])
  start (.fresh ⟨some "token"⟩ .unknown Store.defaultNamespace 1) { metrics := [reply, reply] }

def shortListened : Timeline Script :=
  { shortTimeline with store := shortTimeline.store.perform (.subscribe "s") }

/-- A subscriber that takes nothing before two rounds have ended misses the first. -/
theorem broadcast_short : ∃ later u t, Path Script.source shortTimeline [] shortTimeline ∧
    Broadcast Script.source 1 shortTimeline [] shortTimeline ∧
    Move Script.source shortTimeline (.chore (.subscribe "s")) shortListened ∧
    Listens Script.source "s" shortListened later [.event (.metricsUpdated u), .lagged 1] t := by
  have quiet {m : Mark} (none : m.subscriber? = none) : m.subscriber? ≠ some "s" := by
    rw [none]
    exact nofun
  have none : Path Script.source shortTimeline [] shortTimeline := .refl
  have listening : Listens Script.source "s" shortListened [] [] shortListened := .start
  have started := listening.other (.call .none .list (by simp [Work.MayCall])) (quiet rfl)
  have asked := started.other (.ask (.head _) rfl) (quiet rfl)
  have ended := asked.other (.finish (.head _) rfl) (quiet rfl)
  have again := ended.other (.call .none .list (by simp [Work.MayCall])) (quiet rfl)
  have asked' := again.other (.ask (.head _) rfl) (quiet rfl)
  have ended' := asked'.other (.finish (.head _) rfl) (quiet rfl)
  have lagged := ended'.receive rfl (.chore _ (.receive "s"))
  have current := lagged.receive rfl (.chore _ (.receive "s"))
  exact ⟨_, _, _, none, none.broadcast, .chore _ (.subscribe "s"), current⟩

end Timeline

end MetricWatch
