import MetricWatch.Proofs.Json.Depth
import MetricWatch.Proofs.Json.Alike.Forms
import MetricWatch.Proofs.Metric.RoundTrip

/-!
# Sections of answers

An answer is read from an object whose members are null or sections, and a section is read only if
each of its metrics is. So an answer in which one metric cannot be read is not read at all, wherever
in the text the metric stands. The main statements are `NodeSection.ofValue_eq_ok`,
`ClusterAnswer.ofValue_eq_ok` and `ClusterAnswer.not_spoilt_of_ofBytes`.
-/

namespace MetricWatch.Json

variable {v : Value} {d : Datum} {room : Nat}

/-! ### Parts that may be left out -/

/-- Null or a number is read from a value that is one. -/
lemma readNullable_nat64 {want : String} :
    (Shape.nullable (.nat64 want)).reader .value room v.toTree = .ok d ↔
      v = .null ∧ d = .none ∨ ∃ n, v = .number (.nat n) ∧ d = .int n := by
  constructor
  · intro read
    cases v with
    | null =>
      cases read
      exact .inl ⟨rfl, rfl⟩
    | number n =>
      cases n with
      | nat n =>
        cases read
        exact .inr ⟨n, rfl, rfl⟩
      | neg | float => cases read
    | _ => cases read
  · rintro (⟨rfl, rfl⟩ | ⟨n, rfl, rfl⟩) <;> rfl

/-! ### Members that are read -/

section

variable {route : Route} {inside : Nat} {t : Tree} {ms : List (Key × Tree)} {ts : List Tree}
  {ending : Ending} {fields : List FieldReader} {field : FieldReader} {title : String}

lemma Route.descend_eq_ok (descends : route.descend room = .ok inside) : inside = room - 1 := by
  unfold descend at descends
  split at descends
  · cases descends
  · exact (Except.ok.inj descends).symm

/-- Whoever fills the slots of a record has read each member that is for a part, be it repeated. -/
lemma exists_read_of_fillSlots (distinct : (fields.map FieldReader.key).Nodup)
    (isPart : field ∈ fields) {members : Members Tree} (isMember : (field.key, t) ∈ members)
    (slots : String → Option Datum) {filled : List (Option Datum)}
    (fills : fillSlots route fields room (Tree.named members) (fields.map fun f => slots f.key)
      = .ok filled) : ∃ d, field.read room t = .ok d := by
  induction members generalizing slots with
  | nil => cases isMember
  | cons m rest ih =>
    obtain ⟨key, t'⟩ := m
    rw [Tree.named, List.map_cons] at fills
    by_cases known : ∃ f ∈ fields, f.key = key
    · obtain ⟨f, mem, rfl⟩ := known
      rw [fillSlots_take distinct mem] at fills
      split at fills
      · cases fills
      · obtain ⟨d, read, fills⟩ := bind_eq_ok.mp fills
        rcases List.mem_cons.mp isMember with own | later
        · obtain ⟨same, rfl⟩ := Prod.mk.inj own
          obtain rfl : field = f := List.inj_on_of_nodup_map distinct isPart mem same
          exact ⟨d, read⟩
        · exact ih later (fun key => if key = f.key then some d else slots key) fills
    · have unknown : ∀ f ∈ fields, f.key ≠ key := fun f mem same => known ⟨f, mem, same⟩
      rw [fillSlots_skip unknown] at fills
      split at fills
      · rcases List.mem_cons.mp isMember with own | later
        · exact absurd (congrArg Prod.fst own) (unknown field isPart)
        · exact ih later slots fills
      · cases fills

/-- Whoever reads a record from an object has read each member that is for a part. -/
lemma exists_read_of_member (distinct : (fields.map FieldReader.key).Nodup)
    (isPart : field ∈ fields) (isMember : (.text field.key, t) ∈ ms)
    (read : readRecord route title fields room (.object ms ending) = .ok d) :
    ∃ d, field.read (room - 1) t = .ok d := by
  obtain ⟨inside, descends, read⟩ := bind_eq_ok.mp read
  obtain ⟨filled, fills, -⟩ := bind_eq_ok.mp read
  obtain ⟨members, rfl⟩ := fillSlots_named fills
  obtain rfl := Route.descend_eq_ok descends
  obtain ⟨m, mem, same⟩ := List.mem_map.mp isMember
  obtain ⟨isKey, rfl⟩ := Prod.mk.inj same
  rw [← Prod.eta m, Key.text.inj isKey] at mem
  exact exists_read_of_fillSlots distinct isPart mem (fun _ => none) fills

/-- Whoever reads a record from an array has read the first element as its first part. -/
lemma exists_read_of_head
    (read : readRecord route title (field :: fields) room (.array (t :: ts) ending) = .ok d) :
    ∃ d, field.read (room - 1) t = .ok d := by
  obtain ⟨inside, descends, read⟩ := bind_eq_ok.mp read
  obtain ⟨_, isParts, -⟩ := bind_eq_ok.mp read
  obtain ⟨d, isFirst, -⟩ := bind_eq_ok.mp isParts
  obtain rfl := Route.descend_eq_ok descends
  exact ⟨d, isFirst⟩

lemma exists_read_of_item {item : Reader} (read : readList route item room (.array ts ending) = .ok d)
    (mem : t ∈ ts) : ∃ d, item (room - 1) t = .ok d := by
  obtain ⟨_, inside, ds, isArray, descends, each, -⟩ := readList_eq_ok.mp read
  obtain ⟨rfl, -⟩ := Tree.array.inj isArray
  obtain rfl := Route.descend_eq_ok descends
  clear read isArray descends
  induction each with
  | nil => cases mem
  | cons first _ ih =>
    rcases List.mem_cons.mp mem with rfl | mem
    · exact ⟨_, first⟩
    · exact ih mem

end

end MetricWatch.Json

namespace MetricWatch

open Json (Value Datum Tree Key Shape Fields Form Members FieldReader)

/-! ### Sections -/

namespace NodeSection

variable {v : Value} {s : NodeSection}

/-- The keys of a section. -/
def keys : List String := ["metrics", "total"]

/-- Whether a total is what stands for it, which may be left out or null. -/
def TotalIs (total : Option UInt64) : Option Value → Prop
  | none | some .null => total = none
  | some (.number (.nat n)) => total = some (UInt64.ofNat n)
  | some _ => False

/-- Whether a value says what a section is: a list of metrics, each of which is read, and a total. -/
def Told (v : Value) (s : NodeSection) : Prop :=
  ∃ items total, v.parts? keys = some [some (.array items), total] ∧
    List.Forall₂ (fun w m => Metric.form.ofValue w = .ok m) items s.metrics ∧ TotalIs s.total total

lemma ofDatum?_eq_some {metrics total : Datum} : form.ofDatum? (.record [metrics, total]) = some s ↔
    (Form.list Metric.form).ofDatum? metrics = some s.metrics ∧
      (Form.nullable (.nat64 "usize")).ofDatum? total = some s.total := by
  simp only [form, bind, Option.bind_eq_some_iff, Option.some.injEq]
  constructor
  · rintro ⟨ms, isMetrics, t, isTotal, rfl⟩
    exact ⟨isMetrics, isTotal⟩
  · rintro ⟨isMetrics, isTotal⟩
    exact ⟨_, isMetrics, _, isTotal, rfl⟩

lemma totalIs_iff {found : Option Value} {total : Option UInt64} : TotalIs total found ↔
    ∃ d, FieldReader.Gives ⟨"total", (Shape.nullable (.nat64 "usize")).reader .value, .omitted⟩ 0
      found d ∧ (Form.nullable (.nat64 "usize")).ofDatum? d = some total := by
  cases found with
  | none =>
    constructor
    · rintro rfl
      exact ⟨.none, rfl, rfl⟩
    · rintro ⟨d, gives, known⟩
      cases gives
      exact (Option.some.inj known).symm
  | some w =>
    constructor
    · intro isTotal
      cases w with
      | null => exact ⟨.none, rfl, congrArg some (show total = none from isTotal).symm⟩
      | number n =>
        cases n with
        | nat n =>
          obtain rfl : total = some (UInt64.ofNat n) := isTotal
          exact ⟨.int n, rfl, rfl⟩
        | neg | float => cases isTotal
      | _ => cases isTotal
    · rintro ⟨d, gives, known⟩
      rcases Json.readNullable_nat64.mp gives with ⟨rfl, rfl⟩ | ⟨n, rfl, rfl⟩
      · exact (Option.some.inj known).symm
      · exact (Option.some.inj known).symm

/-- A section is read from a value exactly if the value says what it is. -/
theorem ofValue_eq_ok (proper : v.Proper) : form.ofValue v = .ok s ↔ Told v s := by
  rw [Form.ofValue_eq_ok 1]
  constructor
  · rintro ⟨d, read, known⟩
    obtain ⟨founds, parts, found, reads, rfl⟩ := (Fields.reader_eq_ok (by decide) proper).mp read
    obtain _ | ⟨gives₁, _ | ⟨gives₂, _ | _⟩⟩ := reads
    obtain ⟨w, rfl, isList⟩ := FieldReader.gives_required.mp gives₁
    obtain ⟨isMetrics, isTotal⟩ := ofDatum?_eq_some.mp known
    obtain ⟨items, rfl, each⟩ :=
      Form.ofValue_list.mp ((Form.ofValue_eq_ok 0).mpr ⟨_, isList, isMetrics⟩)
    exact ⟨items, _, found, each, totalIs_iff.mpr ⟨_, gives₂, isTotal⟩⟩
  · rintro ⟨items, total, found, each, isTotal⟩
    obtain ⟨metrics, isList, isMetrics⟩ :=
      (Form.ofValue_eq_ok 0).mp (Form.ofValue_list.mpr ⟨items, rfl, each⟩)
    obtain ⟨total', gives, isTotal⟩ := totalIs_iff.mp isTotal
    exact ⟨.record [metrics, total'], (Fields.reader_eq_ok (by decide) proper).mpr
      ⟨_, _, found, .cons (FieldReader.gives_required.mpr ⟨_, rfl, isList⟩) (.cons gives .nil), rfl⟩,
      ofDatum?_eq_some.mpr ⟨isMetrics, isTotal⟩⟩

/-- What is read as a section is data of a record, which is something. -/
lemma isSome_of_read {room : Nat} {d : Datum} (proper : v.Proper)
    (read : form.shape.reader .value room v.toTree = .ok d) : d ≠ .none := by
  obtain ⟨_, _, -, -, rfl⟩ := (Fields.reader_eq_ok (by decide) proper).mp read
  exact nofun

end NodeSection

/-! ### Answers -/

namespace ClusterAnswer

variable {v : Value} {answer : ClusterAnswer}

/-- Whether a member of an answer says what is known of a node: nothing by null, and otherwise a
section. -/
def Tells (w : Value) (o : Option NodeSection) : Prop :=
  w = .null ∧ o = none ∨ ∃ s, NodeSection.form.ofValue w = .ok s ∧ o = some s

/-- An answer is read from an object each of whose members is null or read as a section. -/
theorem ofValue_eq_ok (proper : v.Proper) : form.ofValue v = .ok answer ↔
    ∃ members, v = .object members ∧ Members.Alongside Tells members answer := by
  rw [form, Form.ofValue_members proper]
  refine exists_congr fun members => and_congr_right fun isObject => ?_
  subst isObject
  cases proper with
  | object sorted each =>
    exact Form.alongside_congr fun m mem o => Form.ofValue_nullable nofun fun d =>
      NodeSection.isSome_of_read (each m mem)

lemma exists_ofValue_iff (proper : v.Proper) : (∃ answer, form.ofValue v = .ok answer) ↔
    ∃ members, v = .object members ∧
      ∀ m ∈ members, m.2 = .null ∨ ∃ s, NodeSection.form.ofValue m.2 = .ok s := by
  have exists_tells {w : Value} :
      (∃ o, Tells w o) ↔ w = .null ∨ ∃ s, NodeSection.form.ofValue w = .ok s := by
    simp [Tells, exists_or]
  simp only [ofValue_eq_ok proper, ← exists_tells]
  constructor
  · rintro ⟨answer, members, isObject, along⟩
    exact ⟨members, isObject, fun m mem => along.exists_of_mem mem⟩
  · rintro ⟨members, isObject, each⟩
    obtain ⟨answer, along⟩ := Members.Alongside.exists_of_each each
    exact ⟨answer, members, isObject, along⟩

/-- The nodes of an answer that was read are in order. -/
lemma sorted_of_ofValue (proper : v.Proper) (read : form.ofValue v = .ok answer) :
    Members.Sorted answer := by
  obtain ⟨members, rfl, along⟩ := (ofValue_eq_ok proper).mp read
  cases proper with
  | object sorted => exact along.sorted sorted

lemma sorted_of_ofBytes {bytes : List UInt8} (read : form.ofBytes bytes = .ok answer) :
    Members.Sorted answer := by
  obtain ⟨d, isMap, -, known⟩ := Form.ofChars_eq_ok.mp read
  obtain ⟨_, _, data, -, -, -, rfl⟩ := Json.readMap_eq_ok.mp isMap
  exact Form.sorted_of_members (Members.sorted_ofList data) (Form.resolve_eq_ok.mp known)

end ClusterAnswer

/-! ### Metrics in texts -/

/-- Where metrics stand in the text of a section: in a list under `metrics` in an object, or in a list
that is the first element of an array. -/
inductive Json.Tree.Lists : Tree → Tree → Prop
  | member {ms : List (Key × Tree)} {items : List Tree} {ending ending' : Json.Ending} {item : Tree}
      (under : (.text "metrics", .array items ending') ∈ ms) (mem : item ∈ items) :
      Lists (.object ms ending) item
  | element {items rest : List Tree} {ending ending' : Json.Ending} {item : Tree}
      (mem : item ∈ items) : Lists (.array (.array items ending' :: rest) ending) item

/-- Whether some metric in the text of an answer cannot be read where it stands, which is below the
answer, a section and a list, be it in a section that another of the same node replaces. -/
def Json.Tree.Spoilt (root : Tree) : Prop :=
  ∃ ms ending key part item, root = .object ms ending ∧ (key, part) ∈ ms ∧ part.Lists item ∧
    ∀ d, Metric.form.shape.reader .text (Json.nestingLimit - 3) item ≠ .ok d

lemma NodeSection.exists_read_of_lists {part item : Tree} {room : Nat} {d : Datum}
    (read : form.shape.reader .text room part = .ok d) (isItem : part.Lists item) :
    ∃ d, Metric.form.shape.reader .text (room - 2) item = .ok d := by
  have distinct : ((Fields.readers .text (.need "metrics" (.list Metric.form.shape) <|
      .may "total" (.nat64 "usize") .done)).map FieldReader.key).Nodup := by decide
  rw [form, Shape.reader] at read
  cases isItem with
  | member under mem =>
    obtain ⟨d, read⟩ := Json.exists_read_of_member distinct List.mem_cons_self under read
    exact Json.exists_read_of_item read mem
  | element mem =>
    obtain ⟨d, read⟩ := Json.exists_read_of_head read
    exact Json.exists_read_of_item read mem

/-- Whoever reads an answer has read each of its metrics. -/
lemma ClusterAnswer.not_spoilt_of_read {root : Tree} {d : Datum}
    (read : form.shape.reader .text Json.nestingLimit root = .ok d) : ¬ root.Spoilt := by
  rintro ⟨ms, ending, key, part, item, rfl, isMember, isItem, unread⟩
  obtain ⟨members, inside, entries, isObject, descends, along, -⟩ := Json.readMap_eq_ok.mp read
  obtain ⟨rfl, -⟩ := Tree.object.inj isObject
  obtain rfl := Json.Route.descend_eq_ok descends
  obtain ⟨⟨_, part'⟩, mem, same⟩ := List.mem_map.mp isMember
  obtain ⟨-, rfl⟩ := Prod.mk.inj same
  obtain ⟨d, read⟩ := along.exists_of_mem mem
  -- Metrics stand in objects and arrays only, which are not null.
  have isSection : NodeSection.form.shape.reader .text (Json.nestingLimit - 1) part' = .ok d := by
    cases isItem <;> exact read
  obtain ⟨d, read⟩ := NodeSection.exists_read_of_lists isSection isItem
  exact unread d read

/-- An answer in which a metric cannot be read is not read. -/
theorem ClusterAnswer.not_spoilt_of_ofBytes {bytes : List UInt8} {answer : ClusterAnswer}
    (read : form.ofBytes bytes = .ok answer) :
    ¬ (Json.Document.scan (Text.Utf8.decode bytes)).root.Spoilt := by
  obtain ⟨d, read, -, -⟩ := Form.ofChars_eq_ok.mp read
  exact not_spoilt_of_read read

end MetricWatch
