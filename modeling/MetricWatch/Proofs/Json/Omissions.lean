import MetricWatch.Proofs.Json.RoundTrip

/-!
# Values with members left out

A value may lack members of its objects. A record is still read from it when all that is left out
are parts with a default: those parts are then their defaults, and every other part is what is read
of it. A record that lacks a part which must be given is not read. The main statements are
`Fields.Abridged.reader_without`, `Shape.unread_without` and `Shape.reader_put`.
-/

namespace MetricWatch.Json

variable {cut : List String → Bool} {room : Nat} {title : String} {fields : Fields} {d : Datum}
  {parts parts' : List Datum}

/-! ### Leaving out -/

namespace Value

mutual

/-- A value without the members at some paths of keys. -/
def without (cut : List String → Bool) : Value → Value
  | .object members => .object (membersWithout cut members)
  | v => v

/-- The members of an object without those at some paths of keys. -/
def membersWithout (cut : List String → Bool) : List (String × Value) → List (String × Value)
  | [] => []
  | (key, v) :: rest =>
    if cut [key] then membersWithout cut rest
    else (key, v.without fun path => cut (key :: path)) :: membersWithout cut rest

end

variable {members : Members Value} {v : Value}

mutual

/-- A value is as it was if nothing is left out. -/
theorem without_none : (v : Value) → {cut : List String → Bool} →
    (∀ key path, cut (key :: path) = false) → v.without cut = v
  | .null, _, _ | .bool _, _, _ | .number _, _, _ | .string _, _, _ | .array _, _, _ => by
    simp only [without]
  | .object members, _, whole => by rw [without, membersWithout_none members whole]

theorem membersWithout_none : (members : List (String × Value)) → {cut : List String → Bool} →
    (∀ key path, cut (key :: path) = false) → membersWithout cut members = members
  | [], _, _ => by rw [membersWithout]
  | (key, v) :: rest, _, whole => by
    rw [membersWithout, whole, if_neg Bool.false_ne_true,
      without_none v fun k path => whole key (k :: path), membersWithout_none rest whole]

end

/-- What is left of the members is what stood under their keys, less what is left out deeper. -/
lemma get?_membersWithout (cut : List String → Bool) (members : Members Value) (key : String) :
    Members.get? (membersWithout cut members) key = if cut [key] then none else
      (Members.get? members key).map fun v => v.without fun path => cut (key :: path) := by
  induction members with
  | nil => rw [membersWithout, Members.get?_nil, Option.map_none, ite_self]
  | cons m rest ih =>
    obtain ⟨k, v⟩ := m
    rw [membersWithout, Members.get?_cons]
    by_cases own : k = key
    · subst own
      cases isCut : cut [k] <;> simp [Members.get?_cons, ih, isCut]
    · cases isCut : cut [k] <;> simp [Members.get?_cons, ih, own]

lemma mem_membersWithout {m : String × Value} (mem : m ∈ membersWithout cut members) :
    ∃ v, (m.1, v) ∈ members ∧ m.2 = v.without fun path => cut (m.1 :: path) := by
  induction members with
  | nil =>
    rw [membersWithout] at mem
    cases mem
  | cons m' rest ih =>
    obtain ⟨k, v⟩ := m'
    rw [membersWithout] at mem
    have later (mem : m ∈ membersWithout cut rest) :
        ∃ w, (m.1, w) ∈ (k, v) :: rest ∧ m.2 = w.without fun path => cut (m.1 :: path) :=
      have ⟨w, mem, same⟩ := ih mem
      ⟨w, List.mem_cons_of_mem _ mem, same⟩
    split at mem
    · exact later mem
    · rcases List.mem_cons.mp mem with rfl | mem
      · exact ⟨v, List.mem_cons_self, rfl⟩
      · exact later mem

lemma sorted_membersWithout (sorted : Members.Sorted members) :
    Members.Sorted (membersWithout cut members) := by
  induction members with
  | nil =>
    rw [membersWithout]
    exact .nil
  | cons m rest ih =>
    obtain ⟨k, v⟩ := m
    obtain ⟨above, sorted⟩ := List.pairwise_cons.mp sorted
    rw [membersWithout]
    split
    · exact ih sorted
    · refine List.pairwise_cons.mpr ⟨fun n mem => ?_, ih sorted⟩
      obtain ⟨w, mem, -⟩ := mem_membersWithout mem
      exact above (n.1, w) mem

end Value

/-! ### Records -/

lemma Fields.get?_writeParts {key : String} {shape : Shape} {absence : Absence} {rest : Fields}
    {ds : List Datum} (written : absence ≠ .omitted) (other : String) :
    Members.get? ((Fields.field key shape absence rest).writeParts (d :: ds)) other
      = if key = other then some (shape.write d) else Members.get? (rest.writeParts ds) other := by
  rw [Fields.writeParts, putPart_eq_put fun isOmitted => absurd isOmitted written, Members.get?_put]

/-- The parts of a record, and what is read for them where members at some paths are left out: what
is read of the rest of a part that is given, and the default of one that is not. -/
inductive Fields.Abridged (cut : List String → Bool) : Fields → List Datum → List Datum → Prop
  | done : Abridged cut .done [] []
  | given {key : String} {shape : Shape} {absence : Absence} {rest : Fields} {d d' : Datum}
      {ds ds' : List Datum} (isGiven : cut [key] = false) (written : absence ≠ .omitted)
      (reads : ∀ room, shape.reader .value room
        ((shape.write d).without fun path => cut (key :: path)).toTree = .ok d')
      (others : Abridged cut rest ds ds') :
      Abridged cut (.field key shape absence rest) (d :: ds) (d' :: ds')
  | left {key : String} {shape : Shape} {rest : Fields} {d d' : Datum} {ds ds' : List Datum}
      (isLeft : cut [key] = true) (others : Abridged cut rest ds ds') :
      Abridged cut (.field key shape (.filled d') rest) (d :: ds) (d' :: ds')

namespace Fields.Abridged

/-- The parts are read one by one from members that are those of the record under its keys. -/
lemma reads (distinct : fields.keys.Nodup) (abridged : fields.Abridged cut parts parts')
    {members : Members Value} (agree : ∀ key ∈ fields.keys,
      Members.get? members key = Members.get? (fields.writeParts parts) key) (room : Nat) :
    Reads room (fields.readers .value) ((fields.readers .value).map fun f =>
      Members.get? (Value.membersWithout cut members) f.key) parts' := by
  induction abridged with
  | done => exact .nil
  | @given key shape absence rest d d' ds ds' isGiven written reads _ ih =>
    obtain ⟨alone, distinct⟩ := List.nodup_cons.mp distinct
    have own := agree key List.mem_cons_self
    rw [get?_writeParts written, if_pos rfl] at own
    refine .cons ?_ (ih distinct fun k mem => ?_)
    · simp only [Value.get?_membersWithout, isGiven, own]
      exact reads room
    · rw [agree k (List.mem_cons_of_mem _ mem), get?_writeParts written,
        if_neg fun same : key = k => alone (same ▸ mem)]
  | @left key shape rest d d' ds ds' isLeft _ ih =>
    obtain ⟨alone, distinct⟩ := List.nodup_cons.mp distinct
    have written : Absence.filled d' ≠ .omitted := nofun
    refine .cons ?_ (ih distinct fun k mem => ?_)
    · simp only [Value.get?_membersWithout, isLeft]
      exact rfl
    · rw [agree k (List.mem_cons_of_mem _ mem), get?_writeParts written,
        if_neg fun same : key = k => alone (same ▸ mem)]

/-- A record is read from its value with some members left out. -/
theorem reader_without (distinct : fields.keys.Nodup)
    (proper : ((Shape.record title fields).write (.record parts)).Proper)
    (abridged : fields.Abridged cut parts parts') (room : Nat) :
    (Shape.record title fields).reader .value room
      (((Shape.record title fields).write (.record parts)).without cut).toTree
        = .ok (.record parts') := by
  rw [Shape.write] at proper ⊢
  cases proper with
  | object sorted _ =>
    have readers : ((fields.readers .value).map FieldReader.key).Nodup :=
      (fields.keys_readers .value).symm ▸ distinct
    rw [Value.without, Shape.reader]
    exact (readRecord_object readers (Value.sorted_membersWithout sorted)).mpr
      ⟨parts', abridged.reads distinct (fun _ _ => rfl) _, rfl⟩

end Fields.Abridged

/-! ### Parts with a default -/

section

variable {α : Type} {key : String} {rest : Fields} {ds ds' : List Datum}

/-- A part with a default is what is read of it where it is given, and its default otherwise. -/
lemma Fields.Abridged.default (form : Form α) (b : α) {a a' : α}
    (reads : cut [key] = false → ∀ room, form.shape.reader .value room
      ((form.toValue a).without fun path => cut (key :: path)).toTree = .ok (form.toDatum a'))
    (others : rest.Abridged cut ds ds') :
    (Fields.default key form.shape (form.toDatum b) rest).Abridged cut (form.toDatum a :: ds)
      (form.toDatum (if cut [key] then b else a') :: ds') := by
  cases isLeft : cut [key] with
  | true => exact .left isLeft others
  | false => exact .given isLeft nofun (reads isLeft) others

/-- What is written whole is read as it was. -/
lemma Form.Returns.reads_without {form : Form α} {a : α} (returns : form.Returns a)
    (whole : ∀ key path, cut (key :: path) = false) (room : Nat) :
    form.shape.reader .value room ((form.toValue a).without cut).toTree = .ok (form.toDatum a) := by
  rw [Value.without_none _ whole]
  exact returns.keeps.reads room

/-- A part with a default that is left out as a whole or not at all. -/
lemma Fields.Abridged.leaf (form : Form α) (b : α) {a : α} (returns : form.Returns a)
    (whole : ∀ key' path, cut (key :: key' :: path) = false) (others : rest.Abridged cut ds ds') :
    (Fields.default key form.shape (form.toDatum b) rest).Abridged cut (form.toDatum a :: ds)
      (form.toDatum (if cut [key] then b else a) :: ds') :=
  .default form b (fun _ => returns.reads_without whole) others

end

/-! ### Objects with and without a member -/

section

variable {members : Members Value} {key : String}

/-- A record is read from an object when each of its parts is read from the member under its key, or
is given where there is none. -/
lemma Shape.reader_object (distinct : fields.keys.Nodup) (sorted : Members.Sorted members) :
    (Shape.record title fields).reader .value room (Value.object members).toTree = .ok d ↔
      ∃ data : String → Datum, (∀ f ∈ fields.readers .value,
        f.Gives (room - 1) (Members.get? members f.key) (data f.key)) ∧
        d = .record ((fields.readers .value).map fun f => data f.key) := by
  have readers : ((fields.readers .value).map FieldReader.key).Nodup :=
    (fields.keys_readers .value).symm ▸ distinct
  rw [Shape.reader, readRecord_object readers sorted]
  simp only [reads_map_iff, forall₂_iff_keyed readers]
  constructor
  · rintro ⟨_, ⟨data, rfl, gives⟩, rfl⟩
    exact ⟨data, gives, rfl⟩
  · rintro ⟨data, gives, rfl⟩
    exact ⟨_, ⟨data, rfl, gives⟩, rfl⟩

/-- A record is not read from an object that lacks a part which must be given, or has something else
in its place. -/
theorem Shape.reader_lacking (distinct : fields.keys.Nodup) (sorted : Members.Sorted members)
    {read : Reader} (needed : ⟨key, read, .required⟩ ∈ fields.readers .value)
    (lacking : ∀ v d, Members.get? members key = some v → read (room - 1) v.toTree ≠ .ok d) :
    (Shape.record title fields).reader .value room (Value.object members).toTree ≠ .ok d := by
  intro isRead
  obtain ⟨data, gives, -⟩ := (reader_object distinct sorted).mp isRead
  obtain ⟨v, found, isPart⟩ := FieldReader.gives_required.mp (gives _ needed)
  exact lacking v _ found isPart

/-- So it is not read from its value with a part left out that must be given, or with so much of the
part left out that what remains is not read. -/
theorem Shape.unread_without (distinct : fields.keys.Nodup)
    (proper : ((Shape.record title fields).write (.record parts)).Proper) {read : Reader}
    (needed : ⟨key, read, .required⟩ ∈ fields.readers .value)
    (lacking : cut [key] = true ∨ ∀ v d, Members.get? (fields.writeParts parts) key = some v →
      read (room - 1) (v.without fun path => cut (key :: path)).toTree ≠ .ok d) :
    (Shape.record title fields).reader .value room
      (((Shape.record title fields).write (.record parts)).without cut).toTree ≠ .ok d := by
  rw [write] at proper ⊢
  cases proper with
  | object sorted _ =>
    rw [Value.without]
    refine reader_lacking distinct (Value.sorted_membersWithout sorted) needed fun v d found => ?_
    rw [Value.get?_membersWithout] at found
    split at found
    · cases found
    next isGiven =>
      obtain ⟨w, isThere, rfl⟩ := Option.map_eq_some_iff.mp found
      exact lacking.resolve_left isGiven w d isThere

/-- To leave a part out is to give what is read as its default. -/
theorem Shape.reader_put (distinct : fields.keys.Nodup) (sorted : Members.Sorted members)
    (absent : Members.get? members key = none) {v : Value}
    (fills : ∀ f ∈ fields.readers .value, f.key = key → ∀ room d,
      f.read room v.toTree = .ok d ↔ f.whenAbsent = .ok d) :
    (Shape.record title fields).reader .value room (Value.object (members.put key v)).toTree
        = .ok d ↔
      (Shape.record title fields).reader .value room (Value.object members).toTree = .ok d := by
  rw [reader_object distinct (Members.sorted_put sorted key v), reader_object distinct sorted]
  refine exists_congr fun data => and_congr_left fun _ => forall₂_congr fun f mem => ?_
  rw [Members.get?_put]
  split
  next own =>
    rw [← own, absent]
    exact fills f mem own.symm _ _
  next => rfl

end

end MetricWatch.Json
