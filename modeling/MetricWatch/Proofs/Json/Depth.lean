import MetricWatch.Proofs.Json.Alike.Basic

/-!
# Values are read however deep they stand

Only a text is limited in how deep it nests, so that a value is read the same at every depth. A list
is read as its items are, and a map as what stands under its keys. The main statements are
`Shape.reader_flat`, `Form.ofValue_list` and `Form.ofValue_members`.
-/

namespace MetricWatch.Json

/-! ### Readers of values -/

mutual

/-- What a tree says as a value does not depend on how deep it stands. -/
theorem Tree.toValue_flat : (t : Tree) → (room : Nat) → t.toValue .value room = t.toValue .value 0
  | .null, _ | .bool _, _ | .broken, _ => rfl
  | .number n, _ => by cases n <;> rfl
  | .string s, _ => by cases s <;> rfl
  | .array items _, room => by
    simp only [toValue, Value.descend_value, bind, Except.bind, toValues_flat items (room - 1)]
  | .object members _, room => by
    simp only [toValue, Value.descend_value, bind, Except.bind, toMembers_flat members (room - 1)]

theorem Tree.toValues_flat : (ts : List Tree) → (room : Nat) →
    toValues .value room ts = toValues .value 0 ts
  | [], _ => rfl
  | t :: ts, room => by rw [toValues, toValues, toValue_flat t room, toValues_flat ts room]

theorem Tree.toMembers_flat : (ms : List (Key × Tree)) → (room : Nat) →
    toMembers .value room ms = toMembers .value 0 ms
  | [], _ => rfl
  | (.text key, t) :: ms, room => by
    rw [toMembers, toMembers, toValue_flat t room, toMembers_flat ms room]
  | (.malformed, _) :: _, _ | (.misplaced, _) :: _, _ => rfl

end

/-- Whether a reader reads a tree the same at every depth. -/
def Reader.Flat (read : Reader) : Prop := ∀ room, read room = read 0

namespace Reader.Flat

variable {read inner first second : Reader} {fields : List FieldReader}

lemma of_scalar (scalar : read.Scalar) : read.Flat := fun room => funext (scalar.flat room 0)

lemma name (names : List String) : Flat (readName .value names) := by
  intro room
  funext t
  cases t with
  | string s => cases s <;> rfl
  | object => simp only [readName, Value.descend_value]; rfl
  | _ => rfl

lemma list (flat : inner.Flat) : Flat (readList .value inner) := by
  intro room
  funext t
  cases t with
  | array => simp only [readList, Value.descend_value, bind, Except.bind, flat (room - 1)]
  | _ => rfl

lemma map (flat : inner.Flat) : Flat (readMap .value inner) := by
  intro room
  funext t
  cases t with
  | object => simp only [readMap, Value.descend_value, bind, Except.bind, flat (room - 1)]
  | _ => rfl

lemma nullable (flat : inner.Flat) : Flat (readNullable inner) := by
  intro room
  funext t
  cases t with
  | null => rfl
  | _ => simp only [readNullable, flat room]

lemma fillSlots_flat (flat : ∀ f ∈ fields, f.read.Flat) (room : Nat) (ms : List (Key × Tree))
    (slots : List (Option Datum)) :
    fillSlots .value fields room ms slots = fillSlots .value fields 0 ms slots := by
  induction ms generalizing slots with
  | nil => rfl
  | cons m ms ih =>
    obtain ⟨key, t⟩ := m
    cases key with
    | malformed | misplaced => rfl
    | text key =>
      rw [fillSlots, fillSlots]
      split
      · rw [ih]
      · split
        next isField _ =>
          have isFlat := flat _ (List.mem_of_getElem? isField)
          simp only [isFlat room, ih]
        next => rfl

lemma readParts_flat (flat : ∀ f ∈ fields, f.read.Flat) (want : String) (ending : Ending)
    (room n : Nat) (ts : List Tree) :
    readParts want ending room n fields ts = readParts want ending 0 n fields ts := by
  induction fields generalizing n ts with
  | nil => rfl
  | cons f fields ih =>
    obtain ⟨isFlat, others⟩ := List.forall_mem_cons.mp flat
    cases ts with
    | nil => simp only [readParts, ih others]
    | cons t ts => simp only [readParts, isFlat room, ih others]

lemma object (flat : ∀ f ∈ fields, f.read.Flat) (title : String) :
    Flat (readObject .value title fields) := by
  intro room
  funext t
  cases t with
  | object =>
    simp only [readObject, Value.descend_value, bind, Except.bind, fillSlots_flat flat (room - 1)]
  | _ => rfl

lemma record (flat : ∀ f ∈ fields, f.read.Flat) (title : String) :
    Flat (readRecord .value title fields) := by
  intro room
  funext t
  have same := congrFun (object flat title room) t
  cases t with
  | array =>
    simp only [readRecord, Value.descend_value, bind, Except.bind, readParts_flat flat _ _ (room - 1)]
  | _ => exact same

lemma checked (flat : inner.Flat) (check : Datum → Except String Datum) :
    Flat (readChecked inner check) := by
  intro room
  funext t
  simp only [readChecked, flat room]

lemma either (flat : first.Flat) (flat' : second.Flat) (title : String) :
    Flat (readEither .value title first second) := by
  intro room
  funext t
  simp only [readEither, flat room, flat' room, t.toValue_flat room]

lemma tagged (flat : inner.Flat) (title tag content : String) (names : List String) :
    Flat (readTagged .value title tag content names inner) := by
  intro room
  funext t
  cases t with
  | object =>
    simp only [readTagged, Value.descend_value, bind, Except.bind, flat (room - 1),
      name names (room - 1), fun t : Tree => t.toValue_flat (room - 1)]
  | array =>
    have parts : ∀ f ∈ [⟨tag, readName .value names, .required⟩, ⟨content, inner, .required⟩],
        FieldReader.read f |>.Flat := by
      simp [name names, flat]
    simp only [readTagged, Value.descend_value, bind, Except.bind, readParts_flat parts _ _ (room - 1)]
  | _ => rfl

end Reader.Flat

mutual

/-- In every shape a value is read the same at every depth. -/
theorem Shape.reader_flat : (shape : Shape) → (shape.reader .value).Flat
  | .bool => .of_scalar .bool
  | .text => .of_scalar .text
  | .float => .of_scalar .float
  | .int64 => .of_scalar .int64
  | .nat64 want => .of_scalar (.nat64 want)
  | .any => by
    intro room
    funext t
    simp only [Shape.reader, t.toValue_flat room]
  | .name names => .name names
  | .list item => item.reader_flat.list
  | .map item => item.reader_flat.map
  | .nullable inner => inner.reader_flat.nullable
  | .record title fields => .record fields.readers_flat title
  | .object title fields => .object fields.readers_flat title
  | .tagged title tag content names inner => inner.reader_flat.tagged title tag content names
  | .either title first second => first.reader_flat.either second.reader_flat title
  | .checked raw check _ => raw.reader_flat.checked check

theorem Fields.readers_flat : (fields : Fields) → ∀ f ∈ fields.readers .value, f.read.Flat
  | .done => nofun
  | .field _ shape _ rest => List.forall_mem_cons.mpr ⟨shape.reader_flat, rest.readers_flat⟩

end

/-! ### Forms of values -/

section

variable {α β γ : Type}

/-- Lists are related through a third one by one. -/
lemma forall₂_through {R : α → β → Prop} {S : β → γ → Prop} {as : List α} {cs : List γ} :
    List.Forall₂ (fun a c => ∃ b, R a b ∧ S b c) as cs ↔
      ∃ bs, List.Forall₂ R as bs ∧ List.Forall₂ S bs cs := by
  constructor
  · intro related
    induction related with
    | nil => exact ⟨[], .nil, .nil⟩
    | cons first _ ih =>
      obtain ⟨b, isFirst, isFirst'⟩ := first
      obtain ⟨bs, others, others'⟩ := ih
      exact ⟨b :: bs, .cons isFirst others, .cons isFirst' others'⟩
  · rintro ⟨bs, related, related'⟩
    exact forall₂_across related.flip related' fun b a c isFirst isFirst' => ⟨b, isFirst, isFirst'⟩

end

namespace Form

variable {α : Type} {form item inner : Form α} {v : Value}

lemma ofValue_eq_ok {a : α} (room : Nat) : form.ofValue v = .ok a ↔
    ∃ d, form.shape.reader .value room v.toTree = .ok d ∧ form.ofDatum? d = some a := by
  rw [ofValue, Shape.readValue, bind_eq_ok, form.shape.reader_flat room,
    form.shape.reader_flat nestingLimit]
  simp only [resolve_eq_ok]

/-- A list is read from an array, item by item. -/
lemma ofValue_list {as : List α} : (list item).ofValue v = .ok as ↔
    ∃ items, v = .array items ∧ List.Forall₂ (fun w a => item.ofValue w = .ok a) items as := by
  simp only [ofValue_eq_ok 0, forall₂_through]
  constructor
  · rintro ⟨d, read, known⟩
    obtain ⟨ts, inside, ds, isArray, ⟨⟩, each, rfl⟩ := readList_eq_ok.mp read
    cases v with
    | array items =>
      rw [Value.toTree_array] at isArray
      obtain ⟨rfl, -⟩ := Tree.array.inj isArray
      exact ⟨items, rfl, ds, List.forall₂_map_left_iff.mp each, mapM_eq_some_iff.mp known⟩
    | _ => cases isArray
  · rintro ⟨items, rfl, ds, each, known⟩
    exact ⟨.list ds, readList_eq_ok.mpr ⟨_, _, ds, Value.toTree_array items, rfl,
      List.forall₂_map_left_iff.mpr each, rfl⟩, mapM_eq_some_iff.mpr known⟩

lemma alongside_congr {β : Type} {R R' : Value → β → Prop} {ms : Members Value}
    {entries : Members β} (same : ∀ m ∈ ms, ∀ b, R m.2 b ↔ R' m.2 b) :
    Members.Alongside R ms entries ↔ Members.Alongside R' ms entries := by
  constructor
  · intro along
    exact ((List.forall₂_and_left ..).mpr ⟨same, along⟩).imp fun m n h =>
      ⟨h.2.1, (h.1 n.2).mp h.2.2⟩
  · intro along
    exact ((List.forall₂_and_left ..).mpr ⟨same, along⟩).imp fun m n h =>
      ⟨h.2.1, (h.1 n.2).mpr h.2.2⟩

/-- Null is read as nothing, and anything else as what it is, which is something. -/
lemma ofValue_nullable {o : Option α} (notNull : ∀ a, form.ofValue .null ≠ .ok a)
    (isSome : ∀ d, form.shape.reader .value 0 v.toTree = .ok d → d ≠ .none) :
    (nullable form).ofValue v = .ok o ↔
      v = .null ∧ o = none ∨ ∃ a, form.ofValue v = .ok a ∧ o = some a := by
  rw [ofValue_eq_ok 0]
  by_cases isNull : v = .null
  · subst isNull
    constructor
    · rintro ⟨d, ⟨⟩, known⟩
      exact .inl ⟨rfl, (Option.some.inj known).symm⟩
    · rintro (⟨-, rfl⟩ | ⟨a, read, -⟩)
      · exact ⟨.none, rfl, rfl⟩
      · exact absurd read (notNull a)
  · have same : (nullable form).shape.reader .value 0 v.toTree
        = form.shape.reader .value 0 v.toTree := by
      cases v with
      | null => exact absurd rfl isNull
      | _ => rfl
    have known {d : Datum} (something : d ≠ .none) :
        (nullable form).ofDatum? d = (form.ofDatum? d).map some := by
      cases d with
      | none => exact absurd rfl something
      | _ => rfl
    rw [same]
    constructor
    · rintro ⟨d, read, isSomething⟩
      rw [known (isSome d read)] at isSomething
      obtain ⟨a, isDatum, rfl⟩ := Option.map_eq_some_iff.mp isSomething
      exact .inr ⟨a, (ofValue_eq_ok 0).mpr ⟨d, read, isDatum⟩, rfl⟩
    · rintro (⟨isNull', -⟩ | ⟨a, read, rfl⟩)
      · exact absurd isNull' isNull
      · obtain ⟨d, read, isDatum⟩ := (ofValue_eq_ok 0).mp read
        exact ⟨d, read, by rw [known (isSome d read), isDatum, Option.map_some]⟩

/-- Entries stand for others exactly if data for both stands between them. -/
lemma alongside_through {R : Value → Datum → Prop} {ms : Members Value} {entries : Members α} :
    Members.Alongside (fun w a => ∃ d, R w d ∧ item.ofDatum? d = some a) ms entries ↔
      ∃ data : Members Datum, Members.Alongside R ms data ∧
        (members item).ofDatum? (.map data) = some entries := by
  have each (m : String × Value) (n : String × α) :
      (m.1 = n.1 ∧ ∃ d, R m.2 d ∧ item.ofDatum? d = some n.2) ↔
        ∃ e : String × Datum, (m.1 = e.1 ∧ R m.2 e.2) ∧
          (item.ofDatum? e.2).map (fun a => (e.1, a)) = some n := by
    obtain ⟨key, w⟩ := m
    obtain ⟨key', a⟩ := n
    constructor
    · rintro ⟨rfl, d, related, known⟩
      exact ⟨(key, d), ⟨rfl, related⟩, by rw [known]; rfl⟩
    · rintro ⟨⟨_, d⟩, ⟨rfl, related⟩, known⟩
      obtain ⟨_, known, ⟨⟩⟩ := Option.map_eq_some_iff.mp known
      exact ⟨rfl, d, related, known⟩
  simp only [Members.Alongside, each, forall₂_through]
  exact exists_congr fun data => and_congr_right fun _ => mapM_eq_some_iff.symm

/-- What data in order says is in order. -/
lemma sorted_of_members {data : Members Datum} {entries : Members α} (sorted : Members.Sorted data)
    (known : (members item).ofDatum? (.map data) = some entries) : Members.Sorted entries := by
  have along : Members.Alongside (fun d a => item.ofDatum? d = some a) data entries := by
    refine (mapM_eq_some_iff.mp known).imp fun e n isEntry => ?_
    obtain ⟨a, isDatum, rfl⟩ := Option.map_eq_some_iff.mp isEntry
    exact ⟨rfl, isDatum⟩
  exact along.sorted sorted

/-- A map is read from an object, member by member. -/
lemma ofValue_members {entries : Members α} (proper : v.Proper) :
    (members item).ofValue v = .ok entries ↔ ∃ ms : Members Value, v = .object ms ∧
      Members.Alongside (fun w a => item.ofValue w = .ok a) ms entries := by
  -- The data under different keys is in order already.
  have inOrder {R : Value → Datum → Prop} {ms : Members Value} {data : Members Datum}
      (sorted : Members.Sorted ms) (along : Members.Alongside R ms data) :
      Members.ofList data = data := Members.ofList_of_sorted (along.sorted sorted)
  simp only [ofValue_eq_ok 0, alongside_through]
  constructor
  · rintro ⟨d, read, known⟩
    obtain ⟨_, inside, data, isObject, ⟨⟩, along, rfl⟩ := readMap_eq_ok.mp read
    cases proper with
    | @object ms sorted =>
      rw [Value.toTree_object] at isObject
      obtain rfl := Tree.named_inj.mp (Tree.object.inj isObject).1
      have along' : Members.Alongside (fun w d => item.shape.reader .value 0 w.toTree = .ok d) ms
          data := List.forall₂_map_left_iff.mp along
      rw [inOrder sorted along'] at known
      exact ⟨_, rfl, data, along', known⟩
    | _ => cases isObject
  · rintro ⟨ms, rfl, data, along, known⟩
    cases proper with
    | object sorted =>
      rw [← inOrder sorted along] at known
      exact ⟨_, readMap_eq_ok.mpr ⟨_, _, data, Value.toTree_object ms, rfl,
        List.forall₂_map_left_iff.mpr along, rfl⟩, known⟩

end Form

end MetricWatch.Json
