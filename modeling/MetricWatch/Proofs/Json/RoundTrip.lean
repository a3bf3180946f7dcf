import MetricWatch.Json.Form
import MetricWatch.Proofs.Json.Parts

/-!
# What is written is read again

Data in a shape is written as a value, and read from that value again. This is so for each shape as
long as it is so for the shapes that it is made of, with the conditions that each of them has: floats
are finite, integers have 64 bits, keys differ, and what may be null is never written as null. The
other way round, what is read from a proper value is proper. The main statements are `Shape.Keeps.record`,
`Shape.Yields.record` and `Form.Returns.ofValue_toValue`.
-/

namespace MetricWatch.Json

variable {shape item inner raw : Shape} {fields : Fields} {d : Datum} {ds parts : List Datum}
  {room : Nat} {title : String}

/-- Any proper value is read as it is. -/
lemma Shape.any_eq_ok {v : Value} (proper : v.Proper) :
    Shape.any.reader .value room v.toTree = .ok d ↔ d = .value v := by
  rw [reader]
  simp only [bind, Except.bind, proper.toValue_toTree, Except.ok.injEq, eq_comm]

/-! ### Writing and reading again -/

/-- Whether data in a shape is written as a value from which it is read again. -/
structure Shape.Keeps (shape : Shape) (d : Datum) : Prop where
  proper : (shape.write d).Proper
  reads : ∀ room, shape.reader .value room (shape.write d).toTree = .ok d

namespace Shape.Keeps

lemma text (s : String) : Shape.text.Keeps (.text s) := ⟨.string s, fun _ => rfl⟩

lemma name {names : List String} {s : String} (known : s ∈ names) :
    (Shape.name names).Keeps (.text s) := ⟨.string s, fun _ => if_pos known⟩

lemma float {x : Binary64} (finite : x.isFinite = true) : Shape.float.Keeps (.float x) := by
  have written : Shape.float.write (.float x) = .number (.float x) := if_pos finite
  refine ⟨written ▸ .number finite, fun room => ?_⟩
  rw [written]
  rfl

lemma nat64 {want : String} {n : Nat} (most : n < 2 ^ 64) :
    (Shape.nat64 want).Keeps (.int n) := by
  have written : (Shape.nat64 want).write (.int n) = .number (.nat n) := by
    rw [write, Value.ofInt, if_pos (Int.natCast_nonneg n), Int.toNat_natCast]
  refine ⟨written ▸ .number most, fun room => ?_⟩
  rw [written]
  rfl

lemma int64 {n : Int} (least : -2 ^ 63 ≤ n) (most : n < 2 ^ 63) :
    Shape.int64.Keeps (.int n) := by
  by_cases negative : n < 0
  · have written : Shape.int64.write (.int n) = .number (.neg n) := by
      rw [write, Value.ofInt, if_neg (Int.not_le.mpr negative)]
    refine ⟨written ▸ .number ⟨least, negative⟩, fun room => ?_⟩
    rw [written]
    rfl
  · obtain ⟨m, rfl⟩ := Int.eq_ofNat_of_zero_le (Int.not_lt.mp negative)
    have written : Shape.int64.write (.int m) = .number (.nat m) := by
      rw [write, Value.ofInt, if_pos (Int.natCast_nonneg m), Int.toNat_natCast]
    have small : m < 2 ^ 63 := by omega
    have fits : (Number.nat m).Proper := Nat.lt_trans small (by decide)
    refine ⟨written ▸ .number fits, fun room => ?_⟩
    rw [written]
    exact if_pos small

lemma any {v : Value} (proper : v.Proper) : Shape.any.Keeps (.value v) :=
  ⟨proper, fun _ => (any_eq_ok proper).mpr rfl⟩

lemma list (each : ∀ d ∈ ds, item.Keeps d) : (Shape.list item).Keeps (.list ds) := by
  refine ⟨.array (List.forall_mem_map.mpr fun d mem => (each d mem).proper), fun room => ?_⟩
  have all (room : Nat) : readAll (item.reader .value room)
      (Value.listToTrees (ds.map item.write)) = .ok ds := by
    induction ds with
    | nil => rfl
    | cons d ds ih =>
      rw [List.map_cons, Value.listToTrees, readAll, (each d List.mem_cons_self).reads,
        ih fun d mem => each d (List.mem_cons_of_mem _ mem)]
      rfl
  rw [write, Value.toTree, reader, readList, Value.descend_value]
  simp only [bind, Except.bind, all, Ending.check]

lemma map {entries : Members Datum} (sorted : Members.Sorted entries)
    (each : ∀ e ∈ entries, item.Keeps e.2) : (Shape.map item).Keeps (.map entries) := by
  have written : Members.Sorted (entries.map fun e => (e.1, item.write e.2)) :=
    List.pairwise_map.mpr sorted
  refine ⟨.object written (List.forall_mem_map.mpr fun e mem => (each e mem).proper),
    fun room => ?_⟩
  have all (room : Nat) : readEntries (item.reader .value room)
      (Value.membersToTrees (entries.map fun e => (e.1, item.write e.2))) = .ok entries := by
    clear sorted written
    induction entries with
    | nil => rfl
    | cons e entries ih =>
      rw [List.map_cons, Value.membersToTrees, readEntries, (each e List.mem_cons_self).reads,
        ih fun e mem => each e (List.mem_cons_of_mem _ mem)]
      rfl
  rw [write, Value.toTree, reader, readMap, Value.descend_value]
  simp only [bind, Except.bind, all, Ending.check, Members.ofList_of_sorted sorted]

lemma none : (Shape.nullable inner).Keeps .none := ⟨.null, fun _ => rfl⟩

/-- What is something is not written as null, so that it is not read as nothing. -/
lemma some (keeps : inner.Keeps d) (isSome : d ≠ .none) (notNull : inner.write d ≠ .null) :
    (Shape.nullable inner).Keeps d := by
  have written : (Shape.nullable inner).write d = inner.write d := by
    cases d with
    | none => exact absurd rfl isSome
    | _ => rfl
  refine ⟨written ▸ keeps.proper, fun room => ?_⟩
  rw [written, ← keeps.reads room, reader]
  cases value : inner.write d with
  | null => exact absurd value notNull
  | _ => rfl

lemma checked {check : Datum → Except String Datum} {render : Datum → Datum}
    (keeps : raw.Keeps (render d)) (accepted : check (render d) = .ok d) :
    (Shape.checked raw check render).Keeps d := by
  have written : (Shape.checked raw check render).write d = raw.write (render d) := by
    rw [write]
  refine ⟨written ▸ keeps.proper, fun room => ?_⟩
  rw [written, reader]
  exact readChecked_eq_ok.mpr ⟨render d, keeps.reads room, accepted⟩

end Shape.Keeps

/-! ### Records -/

namespace Fields

/-- The keys of a record. -/
def keys : Fields → List String
  | .done => []
  | .field key _ _ rest => key :: rest.keys

lemma keys_readers (route : Route) : (fields : Fields) →
    (fields.readers route).map FieldReader.key = fields.keys
  | .done => rfl
  | .field key _ _ rest => by
    rw [readers, List.map_cons, keys_readers route rest, keys]

/-- A record is read part by part. -/
lemma reader_eq_ok (distinct : fields.keys.Nodup) {v : Value} (proper : v.Proper) :
    (Shape.record title fields).reader .value room v.toTree = .ok d ↔
      ∃ founds parts, v.parts? fields.keys = some founds ∧
        Reads (room - 1) (fields.readers .value) founds parts ∧ d = .record parts := by
  have keys : (fields.readers .value).map FieldReader.key = fields.keys := fields.keys_readers .value
  rw [Shape.reader, readRecord_eq_ok (keys.symm ▸ distinct) proper, keys]

/-- Whether the parts of a record are all written as values from which they are read again, or not
written at all. -/
inductive Keeps : Fields → List Datum → Prop
  | done : Keeps .done []
  | field {key : String} {shape : Shape} {absence : Absence} {rest : Fields} {d : Datum}
      {ds : List Datum} (keeps : shape.Keeps d) (written : absence = .omitted → d ≠ .none)
      (others : Keeps rest ds) : Keeps (.field key shape absence rest) (d :: ds)
  | left {key : String} {shape : Shape} {rest : Fields} {ds : List Datum}
      (others : Keeps rest ds) : Keeps (.field key shape .omitted rest) (.none :: ds)

/-- The members under which the parts of a record are written. -/
structure Written (fields : Fields) (parts : List Datum) : Prop where
  sorted : Members.Sorted (fields.writeParts parts)
  proper : ∀ m ∈ fields.writeParts parts, m.2.Proper
  keys : Members.keys (fields.writeParts parts) ⊆ fields.keys
  reads : ∀ room, Reads room (fields.readers .value) ((fields.readers .value).map fun f =>
    Members.get? (fields.writeParts parts) f.key) parts

lemma putPart_eq_put {key : String} {absence : Absence} (written : absence = .omitted → d ≠ .none)
    (v : Value) (members : Members Value) :
    putPart key absence d v members = Members.put key v members := by
  unfold putPart
  split
  · exact absurd rfl (written rfl)
  · rfl

lemma Keeps.written (distinct : fields.keys.Nodup) (keeps : fields.Keeps parts) :
    fields.Written parts := by
  induction keeps with
  | done => exact ⟨Members.sorted_nil, nofun, List.nil_subset _, fun _ => .nil⟩
  | @field key shape absence rest d ds keeps written _ ih =>
    obtain ⟨alone, distinct⟩ := List.nodup_cons.mp distinct
    have others := ih distinct
    have put : (Fields.field key shape absence rest).writeParts (d :: ds)
        = Members.put key (shape.write d) (rest.writeParts ds) := putPart_eq_put written ..
    have get (other : String) := Members.get?_put key (shape.write d) (rest.writeParts ds) other
    rw [← put] at get
    refine ⟨?_, fun m mem => ?_, fun other mem => ?_, fun room => ?_⟩
    · rw [put]
      exact Members.sorted_put others.sorted ..
    · rw [put] at mem
      rcases Members.mem_put mem with rfl | mem
      · exact keeps.proper
      · exact others.proper m mem
    · rw [put] at mem
      rcases Members.mem_keys_put.mp mem with rfl | mem
      · exact List.mem_cons_self
      · exact List.mem_cons_of_mem _ (others.keys mem)
    · have later : (rest.readers .value).map (fun f =>
          Members.get? ((Fields.field key shape absence rest).writeParts (d :: ds)) f.key)
            = (rest.readers .value).map fun f => Members.get? (rest.writeParts ds) f.key := by
        refine List.map_congr_left fun f mem => ?_
        have isKey : f.key ∈ rest.keys := rest.keys_readers .value ▸ List.mem_map_of_mem mem
        rw [get, if_neg fun same : key = f.key => alone (same ▸ isKey)]
      rw [readers, List.map_cons, later]
      refine .cons ?_ (others.reads room)
      rw [get, if_pos rfl]
      exact keeps.reads room
  | @left key shape rest ds _ ih =>
    obtain ⟨alone, distinct⟩ := List.nodup_cons.mp distinct
    have others := ih distinct
    have absent : Members.get? (rest.writeParts ds) key = none := by
      by_contra isThere
      obtain ⟨v, isThere⟩ := Option.ne_none_iff_exists'.mp isThere
      exact alone (others.keys (List.mem_map_of_mem (Members.mem_of_get? isThere)))
    refine ⟨others.sorted, others.proper, List.subset_cons_of_subset key others.keys, fun room => ?_⟩
    change Reads room _ (Members.get? (rest.writeParts ds) key :: _) _
    rw [absent]
    exact .cons rfl (others.reads room)

end Fields

/-- A record is read from the members under which it is written. -/
lemma Fields.Keeps.readRecord (distinct : fields.keys.Nodup) (keeps : fields.Keeps parts)
    (title : String) (room : Nat) : readRecord .value title (fields.readers .value) room
      (Value.object (fields.writeParts parts)).toTree = .ok (.record parts) := by
  have written := keeps.written distinct
  have readers : ((fields.readers .value).map FieldReader.key).Nodup :=
    (fields.keys_readers .value).symm ▸ distinct
  exact (readRecord_object readers written.sorted).mpr ⟨parts, written.reads _, rfl⟩

lemma Shape.Keeps.record (distinct : fields.keys.Nodup) (keeps : fields.Keeps parts) :
    (Shape.record title fields).Keeps (.record parts) := by
  have written := keeps.written distinct
  refine ⟨.object written.sorted written.proper, fun room => ?_⟩
  rw [write, reader]
  exact keeps.readRecord distinct title room

lemma Shape.Keeps.object (distinct : fields.keys.Nodup) (keeps : fields.Keeps parts) :
    (Shape.object title fields).Keeps (.record parts) := by
  have written := keeps.written distinct
  refine ⟨.object written.sorted written.proper, fun room => ?_⟩
  rw [write, reader, readObject_eq_ok]
  refine ⟨keeps.readRecord distinct title room, fun _ _ same => ?_⟩
  rw [Value.toTree] at same
  cases same

/-! ### Forms -/

/-- Whether an element is written as a value from which it is read again. -/
structure Form.Returns {α : Type} (form : Form α) (a : α) : Prop where
  keeps : form.shape.Keeps (form.toDatum a)
  known : form.ofDatum? (form.toDatum a) = some a

namespace Form

variable {α γ : Type} {form item inner : Form α} {a : α}

lemma resolve_eq_ok {d : Datum} : form.resolve d = .ok a ↔ form.ofDatum? d = some a := by
  unfold resolve
  split
  next known => rw [known, Except.ok.injEq, Option.some.injEq]
  next unknown => simp [unknown]

theorem Returns.ofValue_toValue (h : form.Returns a) : form.ofValue (form.toValue a) = .ok a := by
  rw [ofValue, toValue, Shape.readValue, h.keeps.reads]
  simp only [bind, Except.bind, resolve, h.known]

lemma Returns.text (s : String) : text.Returns s := ⟨.text s, rfl⟩

lemma Returns.int64 (n : Int64) : int64.Returns n := by
  refine ⟨.int64 n.le_toInt n.toInt_lt, ?_⟩
  exact congrArg some (Int64.ofInt_toInt n)

lemma Returns.nat64 {want : String} (n : UInt64) : (nat64 want).Returns n := by
  refine ⟨.nat64 n.toNat_lt, ?_⟩
  exact congrArg some (UInt64.ofNat_toNat)

lemma mapM_eq_some_iff {β : Type} {f : γ → Option β} {cs : List γ} {bs : List β} :
    cs.mapM f = some bs ↔ List.Forall₂ (fun c b => f c = some b) cs bs := by
  induction cs generalizing bs with
  | nil => simp [eq_comm]
  | cons c cs ih =>
    simp only [List.mapM_cons, Option.bind_eq_bind, Option.bind_eq_some_iff, ih]
    constructor
    · rintro ⟨b, first, bs, others, ⟨⟩⟩
      exact .cons first others
    · rintro ⟨⟩
      next b bs first others => exact ⟨b, first, bs, others, rfl⟩

lemma mapM_eq_some {β : Type} {toDatum : β → γ} {ofDatum? : γ → Option β} {bs : List β}
    (each : ∀ b ∈ bs, ofDatum? (toDatum b) = some b) : (bs.map toDatum).mapM ofDatum? = some bs :=
  mapM_eq_some_iff.mpr (List.forall₂_map_left_iff.mpr (List.forall₂_same.mpr each))

lemma Returns.list {as : List α} (each : ∀ a ∈ as, item.Returns a) : (list item).Returns as :=
  ⟨.list (List.forall_mem_map.mpr fun a mem => (each a mem).keeps),
    mapM_eq_some fun a mem => (each a mem).known⟩

lemma Returns.members {m : Members α} (sorted : Members.Sorted m)
    (each : ∀ e ∈ m, item.Returns e.2) : (members item).Returns m := by
  refine ⟨.map (List.pairwise_map.mpr sorted)
    (List.forall_mem_map.mpr fun e mem => (each e mem).keeps), mapM_eq_some fun e mem => ?_⟩
  rw [(each e mem).known]
  rfl

lemma Returns.none : (nullable inner).Returns Option.none := ⟨.none, rfl⟩

/-- What is something is written as it is, which must not be null. -/
lemma Returns.some (h : inner.Returns a) (isSome : inner.toDatum a ≠ .none)
    (notNull : inner.toValue a ≠ .null) : (nullable inner).Returns (Option.some a) := by
  refine ⟨.some h.keeps isSome notNull, ?_⟩
  have known := h.known
  change (nullable inner).ofDatum? (inner.toDatum a) = Option.some (Option.some a)
  cases datum : inner.toDatum a with
  | none => exact absurd datum isSome
  | _ =>
    rw [datum] at known
    exact congrArg (Option.map Option.some) known

end Form

/-! ### Reading proper values -/

/-- Whether all floating point numbers of data are finite and all its values proper. -/
inductive Datum.Proper : Datum → Prop
  | none : Proper .none
  | bool (b : Bool) : Proper (.bool b)
  | int (n : Int) : Proper (.int n)
  | float {x : Binary64} (finite : x.isFinite = true) : Proper (.float x)
  | text (s : String) : Proper (.text s)
  | value {v : Value} (proper : v.Proper) : Proper (.value v)
  | list {ds : List Datum} (proper : ∀ d ∈ ds, Proper d) : Proper (.list ds)
  | map {entries : List (String × Datum)} (proper : ∀ e ∈ entries, Proper e.2) :
      Proper (.map entries)
  | record {parts : List Datum} (proper : ∀ d ∈ parts, Proper d) : Proper (.record parts)
  | first {d : Datum} (proper : Proper d) : Proper (.first d)
  | second {d : Datum} (proper : Proper d) : Proper (.second d)

lemma Datum.Proper.isFinite {x : Binary64} (proper : (Datum.float x).Proper) :
    x.isFinite = true := by
  cases proper
  assumption

lemma Datum.Proper.of_value {v : Value} (proper : (Datum.value v).Proper) : v.Proper := by
  cases proper
  assumption

lemma Datum.Proper.of_mem (proper : (Datum.record parts).Proper) (mem : d ∈ parts) : d.Proper := by
  cases proper with
  | record proper => exact proper d mem

/-- Whether proper data is read from proper values. -/
def Shape.Yields (shape : Shape) : Prop :=
  ∀ (room : Nat) (v : Value) (d : Datum), v.Proper →
    shape.reader .value room v.toTree = .ok d → d.Proper

namespace Shape.Yields

lemma text : Shape.text.Yields := by
  rintro room v d ⟨⟩ ⟨⟩
  exact .text _

lemma float : Shape.float.Yields := by
  rintro room v d ⟨⟩ ⟨⟩
  next proper => exact .float proper.isFinite

lemma int64 : Shape.int64.Yields := by
  intro room v d proper read
  cases proper with
  | @number n =>
    cases n with
    | nat n =>
      change (if n < Nat.pow 2 63 then _ else _) = _ at read
      split at read
      · cases read
        exact .int _
      · cases read
    | neg n =>
      cases read
      exact .int n
    | float => cases read
  | _ => cases read

lemma any : Shape.any.Yields := by
  intro room v d proper read
  obtain rfl := (any_eq_ok proper).mp read
  exact .value proper

lemma nullable (yields : inner.Yields) : (Shape.nullable inner).Yields := by
  intro room v d proper read
  cases v with
  | null =>
    cases read
    exact .none
  | _ => exact yields room _ d proper read

end Shape.Yields

/-- Whether the parts of a record are read as proper data from proper values, and their defaults are
proper. -/
inductive Fields.Yields : Fields → Prop
  | done : Yields .done
  | field {key : String} {shape : Shape} {absence : Absence} {rest : Fields} (yields : shape.Yields)
      (default : ∀ d, absence = .filled d → d.Proper) (others : Yields rest) :
      Yields (.field key shape absence rest)

lemma FieldReader.Gives.proper {field : FieldReader} {found : Option Value}
    (gives : field.Gives room found d)
    (yields : ∀ v, found = some v → field.read room v.toTree = .ok d → d.Proper)
    (default : ∀ d, field.absence = .filled d → d.Proper) : d.Proper := by
  cases found with
  | some v => exact yields v rfl gives
  | none =>
    unfold Gives whenAbsent at gives
    cases absence : field.absence with
    | required =>
      rw [absence] at gives
      cases gives
    | filled d' =>
      rw [absence] at gives
      cases gives
      exact default d absence
    | omitted =>
      rw [absence] at gives
      cases gives
      exact .none

lemma Fields.Yields.proper {founds : List (Option Value)} (yields : fields.Yields)
    (proper : ∀ v, some v ∈ founds → v.Proper)
    (reads : Reads room (fields.readers .value) founds parts) : ∀ d ∈ parts, d.Proper := by
  induction yields generalizing founds parts with
  | done =>
    rw [readers] at reads
    cases reads
    exact nofun
  | field yields default _ ih =>
    rw [readers] at reads
    cases reads with
    | cons gives reads =>
      refine List.forall_mem_cons.mpr ⟨gives.proper (fun v found => ?_) default, ?_⟩
      · exact yields room v _ (proper v (found ▸ List.mem_cons_self))
      · exact ih (fun v mem => proper v (List.mem_cons_of_mem _ mem)) reads

lemma Shape.Yields.record (distinct : fields.keys.Nodup) (yields : fields.Yields) :
    (Shape.record title fields).Yields := by
  intro room v d proper read
  obtain ⟨founds, parts, found, reads, rfl⟩ := (Fields.reader_eq_ok distinct proper).mp read
  exact .record (yields.proper (fun v mem => proper.of_parts found mem) reads)

end MetricWatch.Json
