import MetricWatch.Proofs.Json.RoundTrip

/-!
# Objects in any order

What is read from an array is read element by element, and what is read from an object depends on
what it has for each key and not on the order of its members. This goes for values and for a name
beside its content, on every route: whoever reads an object has read what its map holds, and an
object whose keys differ is read whenever what it holds is.
-/

namespace MetricWatch.Json

variable {route : Route} {room : Nat} {t : Tree} {ts : List Tree} {ms : List (Key × Tree)}
  {d : Datum} {members : Members Tree}

/-! ### One by one -/

section

variable {α : Type} {f : Tree → Except Fault α}

/-- What reads a list tree by tree. -/
lemma each_eq_ok (all : List Tree → Except Fault (List α)) (nil : all [] = .ok [])
    (cons : ∀ t ts, all (t :: ts) = f t >>= fun a => all ts >>= fun as => .ok (a :: as))
    {as : List α} : all ts = .ok as ↔ List.Forall₂ (fun t a => f t = .ok a) ts as := by
  induction ts generalizing as with
  | nil =>
    rw [nil, List.forall₂_nil_left_iff, Except.ok.injEq]
    exact eq_comm
  | cons t ts ih =>
    rw [cons, bind_eq_ok]
    constructor
    · rintro ⟨a, first, rest⟩
      obtain ⟨as, others, ⟨⟩⟩ := bind_eq_ok.mp rest
      exact .cons first (ih.mp others)
    · rintro ⟨⟩
      next a as first others => exact ⟨a, first, bind_eq_ok.mpr ⟨as, ih.mpr others, rfl⟩⟩

/-- What reads the members of an object one by one, and no key that is no text. -/
lemma entries_eq_ok (all : List (Key × Tree) → Except Fault (Members α)) (nil : all [] = .ok [])
    (text : ∀ key t ms, all ((.text key, t) :: ms)
      = f t >>= fun a => all ms >>= fun as => .ok ((key, a) :: as))
    (malformed : ∀ t ms, all ((.malformed, t) :: ms) = .error .malformed)
    (misplaced : ∀ t ms, all ((.misplaced, t) :: ms) = .error .malformed)
    {entries : Members α} : all ms = .ok entries ↔ ∃ members, ms = Tree.named members ∧
      Members.Alongside (fun t a => f t = .ok a) members entries := by
  induction ms generalizing entries with
  | nil =>
    rw [nil]
    constructor
    · rintro ⟨⟩
      exact ⟨[], rfl, .nil⟩
    · rintro ⟨members, isNil, along⟩
      obtain rfl := List.map_eq_nil_iff.mp isNil.symm
      cases along
      rfl
  | cons m ms ih =>
    constructor
    · intro read
      match m, read with
      | (.text key, t), read =>
        rw [text] at read
        obtain ⟨a, first, rest⟩ := bind_eq_ok.mp read
        obtain ⟨as, others, ⟨⟩⟩ := bind_eq_ok.mp rest
        obtain ⟨members, rfl, along⟩ := ih.mp others
        exact ⟨(key, t) :: members, rfl, .cons ⟨rfl, first⟩ along⟩
      | (.malformed, t), read => cases (malformed t ms).symm.trans read
      | (.misplaced, t), read => cases (misplaced t ms).symm.trans read
    · rintro ⟨members, same, along⟩
      cases along with
      | nil => cases same
      | @cons m n members entries first others =>
        obtain ⟨rfl, rfl⟩ := List.cons.inj same
        obtain ⟨key, a⟩ := n
        obtain ⟨rfl, isFirst⟩ := first
        rw [text]
        exact bind_eq_ok.mpr ⟨a, isFirst, bind_eq_ok.mpr ⟨_, ih.mpr ⟨_, rfl, others⟩, rfl⟩⟩

end

lemma Tree.toValues_eq_ok {vs : List Value} : Tree.toValues route room ts = .ok vs ↔
    List.Forall₂ (fun t v => t.toValue route room = .ok v) ts vs :=
  each_eq_ok (Tree.toValues route room) rfl fun _ _ => rfl

lemma Tree.toMembers_eq_ok {entries : Members Value} :
    Tree.toMembers route room ms = .ok entries ↔ ∃ members, ms = Tree.named members ∧
      Members.Alongside (fun t v => t.toValue route room = .ok v) members entries :=
  entries_eq_ok (Tree.toMembers route room) rfl (fun _ _ _ => rfl) (fun _ _ => rfl) fun _ _ => rfl

lemma readAll_eq_ok {read : Tree → Except Fault Datum} {ds : List Datum} :
    readAll read ts = .ok ds ↔ List.Forall₂ (fun t d => read t = .ok d) ts ds :=
  each_eq_ok (readAll read) rfl fun _ _ => rfl

lemma readEntries_eq_ok {read : Tree → Except Fault Datum} {entries : Members Datum} :
    readEntries read ms = .ok entries ↔ ∃ members, ms = Tree.named members ∧
      Members.Alongside (fun t d => read t = .ok d) members entries :=
  entries_eq_ok (readEntries read) rfl (fun _ _ _ => rfl) (fun _ _ => rfl) fun _ _ => rfl

/-! ### Arrays and objects as values -/

lemma check_eq_ok {ending : Ending} : ending.check = .ok () ↔ ending = .closed := by
  cases ending <;> simp [Ending.check]

/-- The value of an array is that of its elements. -/
lemma Tree.toValue_array {ending : Ending} {v : Value} :
    (Tree.array ts ending).toValue route room = .ok v ↔ ending = .closed ∧
      ∃ inside vs, route.descend room = .ok inside ∧
        List.Forall₂ (fun t v => t.toValue route inside = .ok v) ts vs ∧ v = .array vs := by
  rw [toValue, bind_eq_ok]
  constructor
  · rintro ⟨inside, descends, read⟩
    obtain ⟨vs, isEach, read⟩ := bind_eq_ok.mp read
    obtain ⟨_, checked, ⟨⟩⟩ := bind_eq_ok.mp read
    exact ⟨check_eq_ok.mp checked, inside, vs, descends, toValues_eq_ok.mp isEach, rfl⟩
  · rintro ⟨rfl, inside, vs, descends, isEach, rfl⟩
    exact ⟨inside, descends, bind_eq_ok.mpr ⟨vs, toValues_eq_ok.mpr isEach, rfl⟩⟩

/-- The value of an object is that of its members, the last of equal keys winning. -/
lemma Tree.toValue_object {ending : Ending} {v : Value} :
    (Tree.object ms ending).toValue route room = .ok v ↔ ending = .closed ∧
      ∃ inside members entries, route.descend room = .ok inside ∧ ms = Tree.named members ∧
        Members.Alongside (fun t v => t.toValue route inside = .ok v) members entries ∧
        v = .object (Members.ofList entries) := by
  rw [toValue, bind_eq_ok]
  constructor
  · rintro ⟨inside, descends, read⟩
    obtain ⟨entries, isEach, read⟩ := bind_eq_ok.mp read
    obtain ⟨_, checked, ⟨⟩⟩ := bind_eq_ok.mp read
    obtain ⟨members, rfl, along⟩ := toMembers_eq_ok.mp isEach
    exact ⟨check_eq_ok.mp checked, inside, members, entries, descends, rfl, along, rfl⟩
  · rintro ⟨rfl, inside, members, entries, descends, rfl, along, rfl⟩
    exact ⟨inside, descends, bind_eq_ok.mpr
      ⟨entries, toMembers_eq_ok.mpr ⟨members, rfl, along⟩, rfl⟩⟩

lemma Tree.toValue_named {ending : Ending} {v : Value} :
    (Tree.object (named members) ending).toValue route room = .ok v ↔ ending = .closed ∧
      ∃ inside entries, route.descend room = .ok inside ∧
        Members.Alongside (fun t v => t.toValue route inside = .ok v) members entries ∧
        v = .object (Members.ofList entries) := by
  rw [toValue_object]
  refine and_congr_right fun _ => exists_congr fun inside => ⟨?_, ?_⟩
  · rintro ⟨members', entries, descends, isNamed, along, rfl⟩
    obtain rfl := named_inj.mp isNamed
    exact ⟨entries, descends, along, rfl⟩
  · rintro ⟨entries, descends, along, rfl⟩
    exact ⟨members, entries, descends, rfl, along, rfl⟩

namespace Tree

mutual

/-- What is a value has no break. -/
theorem intact_of_toValue : (t : Tree) → {room : Nat} → {v : Value} →
    t.toValue route room = .ok v → t.intact = true
  | .null, _, _, _ | .bool _, _, _, _ | .number _, _, _, _ | .string _, _, _, _ => rfl
  | .array items _, _, _, isValue => by
    obtain ⟨rfl, _, _, _, each, -⟩ := toValue_array.mp isValue
    rw [intact, allIntact_of_toValues items each]
    rfl
  | .object ms _, _, _, isValue => by
    obtain ⟨rfl, _, members, _, _, named, along, -⟩ := toValue_object.mp isValue
    rw [intact, membersIntact_of_toValues ms named along]
    rfl

theorem allIntact_of_toValues : (ts : List Tree) → {room : Nat} → {vs : List Value} →
    List.Forall₂ (fun t v => t.toValue route room = .ok v) ts vs → allIntact ts = true
  | [], _, _, _ => rfl
  | t :: ts, _, _, .cons first others => by
    rw [allIntact, intact_of_toValue t first, allIntact_of_toValues ts others]
    rfl

theorem membersIntact_of_toValues : (ms : List (Key × Tree)) → {room : Nat} →
    {members : Members Tree} → {entries : Members Value} → ms = named members →
    Members.Alongside (fun t v => t.toValue route room = .ok v) members entries →
    membersIntact ms = true
  | [], _, _, _, _, _ => rfl
  | (key, t) :: ms, _, _, _, isNamed, along => by
    cases along with
    | nil => cases isNamed
    | cons first others =>
      obtain ⟨same, rest⟩ := List.cons.inj isNamed
      have isFirst := first.2
      rw [← (Prod.mk.inj same).2] at isFirst
      rw [membersIntact, intact_of_toValue t isFirst, membersIntact_of_toValues ms rest others]
      rfl

end

mutual

/-- A value that was read is read again from its own tree. -/
theorem toValue_again : (t : Tree) → {room : Nat} → {v : Value} → t.toValue route room = .ok v →
    ∀ room', v.toTree.toValue .value room' = .ok v
  | .null, _, _, isValue => by
    cases isValue
    exact fun _ => rfl
  | .bool b, _, _, isValue => by
    cases isValue
    exact fun _ => rfl
  | .number none, _, _, isValue | .string none, _, _, isValue => by cases isValue
  | .number (some n), _, _, isValue => by
    cases isValue
    exact fun _ => rfl
  | .string (some s), _, _, isValue => by
    cases isValue
    exact fun _ => rfl
  | .array items _, _, _, isValue => by
    obtain ⟨-, _, vs, _, each, rfl⟩ := toValue_array.mp isValue
    intro room'
    rw [Value.toTree, toValue, Value.descend_value]
    simp only [bind, Except.bind, Value.toValues_listToTrees fun v mem =>
      toValues_again items each v mem _, Ending.check]
  | .object ms _, _, _, isValue => by
    obtain ⟨-, _, members, entries, _, isNamed, along, rfl⟩ := toValue_object.mp isValue
    intro room'
    rw [Value.toTree, toValue, Value.descend_value]
    simp only [bind, Except.bind, Value.toMembers_membersToTrees fun m mem =>
      toMembers_again ms isNamed along m (Members.mem_ofList mem) _, Ending.check,
      Members.ofList_of_sorted (Members.sorted_ofList entries)]

theorem toValues_again : (ts : List Tree) → {room : Nat} → {vs : List Value} →
    List.Forall₂ (fun t v => t.toValue route room = .ok v) ts vs →
    ∀ v ∈ vs, ∀ room', v.toTree.toValue .value room' = .ok v
  | [], _, _, each => by
    cases each
    exact nofun
  | t :: ts, _, _, .cons first others => by
    intro v mem
    rcases List.mem_cons.mp mem with rfl | mem
    · exact toValue_again t first
    · exact toValues_again ts others v mem

theorem toMembers_again : (ms : List (Key × Tree)) → {room : Nat} → {members : Members Tree} →
    {entries : Members Value} → ms = named members →
    Members.Alongside (fun t v => t.toValue route room = .ok v) members entries →
    ∀ e ∈ entries, ∀ room', e.2.toTree.toValue .value room' = .ok e.2
  | [], _, members, _, isNamed, along => by
    obtain rfl : members = [] := List.map_eq_nil_iff.mp isNamed.symm
    cases along
    exact nofun
  | (key, t) :: ms, _, _, _, isNamed, along => by
    cases along with
    | nil => cases isNamed
    | cons first others =>
      obtain ⟨same, rest⟩ := List.cons.inj isNamed
      have isFirst := first.2
      rw [← (Prod.mk.inj same).2] at isFirst
      intro e mem
      rcases List.mem_cons.mp mem with rfl | mem
      · exact toValue_again t isFirst
      · exact toMembers_again ms rest others e mem

end

end Tree

/-! ### Names beside their contents -/

section

variable {tag content : String} {readTag inner : Tree → Except Fault Datum}
  {keep : Tree → Except Fault Unit} {progress progress' : TagProgress}

/-- What has been read of a tagged content where trees are found for its name and its content or
nothing. The content waits as long as there is no name. -/
inductive TagProgress.Holds (readTag inner : Tree → Except Fault Datum) :
    TagProgress → Option Tree → Option Tree → Prop
  | nothing : Holds readTag inner ⟨none, none, none⟩ none none
  | named {t : Tree} {d : Datum} (isName : readTag t = .ok d) :
      Holds readTag inner ⟨some d, none, none⟩ (some t) none
  | waiting (t : Tree) : Holds readTag inner ⟨none, some t, none⟩ none (some t)
  | both {t t' : Tree} {d d' : Datum} (isName : readTag t = .ok d) (kept : Option Tree)
      (isContent : inner t' = .ok d') :
      Holds readTag inner ⟨some d, kept, some d'⟩ (some t) (some t')

/-- A member with the name is read. -/
lemma TagProgress.Holds.readName {name content' : Option Tree} {rest : List (Key × Tree)} {t : Tree}
    (holds : progress.Holds readTag inner name content')
    (read : readTaggedMembers route tag content readTag inner keep ((.text tag, t) :: rest) progress
      = .ok progress') :
    ∃ next : TagProgress, next.Holds readTag inner (some t) content' ∧
      readTaggedMembers route tag content readTag inner keep rest next = .ok progress' := by
  rw [readTaggedMembers, if_pos rfl] at read
  cases holds with
  | named | both => cases read
  | nothing =>
    obtain ⟨d, isName, read⟩ := bind_eq_ok.mp read
    exact ⟨_, .named isName, read⟩
  | waiting t' =>
    obtain ⟨d, isName, read⟩ := bind_eq_ok.mp read
    obtain ⟨_, isContent, read⟩ := bind_eq_ok.mp read
    exact ⟨_, .both isName _ isContent, read⟩

/-- A member with the content is read, or waits for the name. -/
lemma TagProgress.Holds.readContent (differ : content ≠ tag) {name content' : Option Tree}
    {rest : List (Key × Tree)} {t : Tree} (holds : progress.Holds readTag inner name content')
    (read : readTaggedMembers route tag content readTag inner keep ((.text content, t) :: rest)
      progress = .ok progress') :
    ∃ next : TagProgress, next.Holds readTag inner name (some t) ∧
      readTaggedMembers route tag content readTag inner keep rest next = .ok progress' := by
  rw [readTaggedMembers, if_neg differ, if_pos rfl] at read
  cases holds with
  | waiting => cases read
  | both isName kept =>
    rw [if_pos (.inr rfl)] at read
    cases read
  | nothing =>
    obtain ⟨_, -, read⟩ := bind_eq_ok.mp read
    exact ⟨_, .waiting t, read⟩
  | named isName =>
    obtain ⟨d, isContent, read⟩ := bind_eq_ok.mp read
    exact ⟨_, .both isName _ isContent, read⟩

/-- Whoever has read a tagged content has read what the map of its members holds. -/
lemma readTaggedMembers_holds (differ : content ≠ tag)
    (read : readTaggedMembers route tag content readTag inner keep (Tree.named members)
      ⟨none, none, none⟩ = .ok progress) :
    progress.Holds readTag inner (Members.get? (Members.ofList members) tag)
      (Members.get? (Members.ofList members) content) := by
  -- The map is built member by member, as in the slots of a record.
  suffices all : ∀ (held : Members Tree) (before : TagProgress),
      before.Holds readTag inner (held.get? tag) (held.get? content) →
      readTaggedMembers route tag content readTag inner keep (Tree.named members) before
        = .ok progress →
      progress.Holds readTag inner
        (Members.get? (members.foldl (fun m e => m.put e.1 e.2) held) tag)
        (Members.get? (members.foldl (fun m e => m.put e.1 e.2) held) content) from
    all [] _ .nothing read
  clear read
  induction members with
  | nil =>
    intro held before holds read
    cases read
    exact holds
  | cons m rest ih =>
    obtain ⟨key, t⟩ := m
    intro held before holds read
    rw [Tree.named, List.map_cons] at read
    by_cases isTag : key = tag
    · subst isTag
      obtain ⟨next, holds, read⟩ := holds.readName read
      refine ih _ next ?_ read
      rwa [Members.get?_put, Members.get?_put, if_pos rfl, if_neg (Ne.symm differ)]
    · by_cases isContent : key = content
      · subst isContent
        obtain ⟨next, holds, read⟩ := holds.readContent differ read
        refine ih _ next ?_ read
        rwa [Members.get?_put, Members.get?_put, if_neg differ, if_pos rfl]
      · rw [readTaggedMembers, if_neg isTag, if_neg isContent] at read
        split at read
        · refine ih _ before ?_ read
          rwa [Members.get?_put, Members.get?_put, if_neg isTag, if_neg isContent]
        · cases read

/-- The first member with the name is read if it and the content that waits can be read. -/
lemma TagProgress.Holds.takesName {content' : Option Tree} {t : Tree} {d : Datum}
    (holds : progress.Holds readTag inner none content') (isName : readTag t = .ok d)
    (contents : ∀ t', content' = some t' → ∃ d', inner t' = .ok d') (rest : List (Key × Tree)) :
    ∃ next : TagProgress, next.Holds readTag inner (some t) content' ∧
      readTaggedMembers route tag content readTag inner keep ((.text tag, t) :: rest) progress
        = readTaggedMembers route tag content readTag inner keep rest next := by
  rw [readTaggedMembers, if_pos rfl]
  cases holds with
  | nothing =>
    refine ⟨_, .named isName, ?_⟩
    rw [isName]
    rfl
  | waiting t' =>
    obtain ⟨d', isContent⟩ := contents t' rfl
    refine ⟨_, .both isName (some t') isContent, ?_⟩
    simp only [isName, isContent, bind, Except.bind]
    rfl

/-- The first member with the content is read, or waits, if it can be read. -/
lemma TagProgress.Holds.takesContent (differ : content ≠ tag) {name : Option Tree} {t : Tree}
    {d : Datum} (holds : progress.Holds readTag inner name none) (isKept : keep t = .ok ())
    (isContent : inner t = .ok d) (rest : List (Key × Tree)) :
    ∃ next : TagProgress, next.Holds readTag inner name (some t) ∧
      readTaggedMembers route tag content readTag inner keep ((.text content, t) :: rest) progress
        = readTaggedMembers route tag content readTag inner keep rest next := by
  rw [readTaggedMembers, if_neg differ, if_pos rfl]
  cases holds with
  | nothing =>
    refine ⟨_, .waiting t, ?_⟩
    rw [isKept]
    rfl
  | named isName =>
    refine ⟨_, .both isName none isContent, ?_⟩
    rw [isContent]
    rfl

/-- Members whose keys differ are read if the name and the content among them are. -/
lemma exists_readTaggedMembers (alone : (Members.keys members).Nodup)
    (intact : ∀ m ∈ members, m.2.intact = true)
    (names : ∀ t, (tag, t) ∈ members → ∃ d, readTag t = .ok d)
    (contents : ∀ t, (content, t) ∈ members → keep t = .ok () ∧ ∃ d, inner t = .ok d) :
    ∃ progress, readTaggedMembers route tag content readTag inner keep (Tree.named members)
      ⟨none, none, none⟩ = .ok progress := by
  -- Keys differ, so whatever is still to come has not been read.
  suffices all : ∀ (before : TagProgress) (name content' : Option Tree),
      before.Holds readTag inner name content' → (tag ∈ Members.keys members → name = none) →
      (content ∈ Members.keys members → content' = none) →
      (∀ t, content' = some t → ∃ d, inner t = .ok d) →
      ∃ progress, readTaggedMembers route tag content readTag inner keep (Tree.named members) before
        = .ok progress by
    refine all _ none none .nothing (fun _ => rfl) (fun _ => rfl) ?_
    rintro t ⟨⟩
  induction members with
  | nil => exact fun before _ _ _ _ _ _ => ⟨before, rfl⟩
  | cons m rest ih =>
    obtain ⟨key, t⟩ := m
    obtain ⟨once, others⟩ := List.nodup_cons.mp alone
    have ih := ih others (fun m mem => intact m (List.mem_cons_of_mem _ mem))
      (fun t mem => names t (List.mem_cons_of_mem _ mem))
      fun t mem => contents t (List.mem_cons_of_mem _ mem)
    intro before name content' holds noName noContent inners
    have noName' (mem : tag ∈ Members.keys rest) := noName (List.mem_cons_of_mem _ mem)
    have noContent' (mem : content ∈ Members.keys rest) := noContent (List.mem_cons_of_mem _ mem)
    rw [Tree.named, List.map_cons]
    by_cases isTag : key = tag
    · subst isTag
      obtain ⟨d, isName⟩ := names t List.mem_cons_self
      obtain rfl := noName List.mem_cons_self
      obtain ⟨next, holds, read⟩ := holds.takesName isName inners _
      rw [read]
      exact ih next _ _ holds (fun mem => absurd mem once) noContent' inners
    · by_cases isContent : key = content
      · subst isContent
        obtain ⟨isKept, d, isContent⟩ := contents t List.mem_cons_self
        obtain rfl := noContent List.mem_cons_self
        obtain ⟨next, holds, read⟩ := holds.takesContent isTag isKept isContent _
        rw [read]
        refine ih next _ _ holds noName' (fun mem => absurd mem once) ?_
        rintro t' ⟨⟩
        exact ⟨d, isContent⟩
      · rw [readTaggedMembers, if_neg isTag, if_neg isContent, if_pos (intact _ List.mem_cons_self)]
        exact ih before _ _ holds noName' noContent' inners

end

/-! ### Parts of arrays -/

/-- The parts of a record from an array are those from another, if what is read from each of its
elements is read from that of the other. -/
lemma readParts_along {R : Tree → Tree → Prop} {room room' : Nat} {want want' : String}
    {fields fields' : List FieldReader}
    (readers : List.Forall₂ (fun f f' => f.absence = f'.absence ∧
      ∀ t t' d, R t t' → f.read room t = .ok d → f'.read room' t' = .ok d) fields fields')
    {ts ts' : List Tree} (along : List.Forall₂ R ts ts') {n n' : Nat} {ds : List Datum}
    {rest : List Tree} (read : readParts want .closed room n fields ts = .ok (ds, rest)) :
    ∃ rest', readParts want' .closed room' n' fields' ts' = .ok (ds, rest') ∧
      rest'.length = rest.length := by
  induction readers generalizing ts ts' n n' ds rest with
  | nil =>
    cases read
    exact ⟨ts', rfl, along.length_eq.symm⟩
  | @cons f f' fields fields' first _ ih =>
    obtain ⟨key, onFirst, absence⟩ := f
    obtain ⟨key', onFirst', absence'⟩ := f'
    obtain ⟨rfl, reads⟩ : absence = absence' ∧ _ := first
    cases along with
    | nil =>
      rw [readParts] at read ⊢
      cases absence with
      | required => cases read
      | filled | omitted =>
        obtain ⟨_, -, read⟩ := bind_eq_ok.mp read
        obtain ⟨d, isDefault, read⟩ := bind_eq_ok.mp read
        obtain ⟨⟨ds, surplus⟩, read, ⟨⟩⟩ := bind_eq_ok.mp read
        obtain ⟨rest', read', same⟩ := ih .nil read
        exact ⟨rest', bind_eq_ok.mpr ⟨_, rfl, bind_eq_ok.mpr ⟨d, isDefault,
          bind_eq_ok.mpr ⟨_, read', rfl⟩⟩⟩, same⟩
    | cons related along =>
      rw [readParts] at read ⊢
      obtain ⟨d, isFirst, read⟩ := bind_eq_ok.mp read
      obtain ⟨⟨ds, surplus⟩, read, ⟨⟩⟩ := bind_eq_ok.mp read
      obtain ⟨rest', read', same⟩ := ih along read
      have isFirst' := reads _ _ _ related isFirst
      exact ⟨rest', bind_eq_ok.mpr ⟨d, isFirst', bind_eq_ok.mpr ⟨_, read', rfl⟩⟩, same⟩

end MetricWatch.Json
