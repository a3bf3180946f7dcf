import MetricWatch.Proofs.Json.Alike.Records
import MetricWatch.Cluster.Metrics
import MetricWatch.Cluster.Names
import MetricWatch.Cluster.Nodes

/-!
# A text and its value are read alike

Where a text is a value at all, what is read from it directly is read from the value too; and what
is read from the value is read directly, unless the text repeats a key in an object, which a record
does not forgive. This holds for every shape whose records have different keys and whose first
alternatives are scalars. The main statement is `read_alike`.
-/

namespace MetricWatch.Json

/-! ### Shapes -/

lemma Shape.Alike.any : Shape.any.Alike where
  forth isValue read := by
    obtain ⟨_, isValue', ⟨⟩⟩ := bind_eq_ok.mp read
    obtain rfl := Except.ok.inj (isValue.symm.trans isValue')
    exact bind_eq_ok.mpr ⟨_, Tree.toValue_again _ isValue _, rfl⟩
  back isValue _ read := by
    obtain ⟨_, isValue', ⟨⟩⟩ := bind_eq_ok.mp read
    obtain rfl := Except.ok.inj ((Tree.toValue_again _ isValue _).symm.trans isValue')
    exact bind_eq_ok.mpr ⟨_, isValue, rfl⟩

/-- Whether a shape is that of scalars. -/
def Shape.scalar : Shape → Bool
  | .bool | .text | .float | .int64 | .nat64 _ => true
  | _ => false

lemma Shape.reader_scalar : (shape : Shape) → shape.scalar = true →
    ∃ read : Reader, read.Scalar ∧ ∀ route, shape.reader route = read
  | .bool, _ => ⟨_, .bool, fun _ => by rw [reader]⟩
  | .text, _ => ⟨_, .text, fun _ => by rw [reader]⟩
  | .float, _ => ⟨_, .float, fun _ => by rw [reader]⟩
  | .int64, _ => ⟨_, .int64, fun _ => by rw [reader]⟩
  | .nat64 want, _ => ⟨_, .nat64 want, fun _ => by rw [reader]⟩

mutual

/-- Whether the parts of each record have different keys, each name another key than its content,
and each first alternative is a scalar. -/
def Shape.lawful : Shape → Bool
  | .list item | .map item | .nullable item => item.lawful
  | .record _ fields | .object _ fields => decide fields.keys.Nodup && fields.lawful
  | .tagged _ tag content _ inner => decide (content ≠ tag) && inner.lawful
  | .either _ first second => first.scalar && second.lawful
  | .checked raw _ _ => raw.lawful
  | _ => true

/-- Whether the shape of each part of a record is lawful. -/
def Fields.lawful : Fields → Bool
  | .done => true
  | .field _ shape _ rest => shape.lawful && rest.lawful

end

mutual

/-- A text and its value are read alike in every lawful shape. -/
theorem Shape.alike_of_lawful : (shape : Shape) → shape.lawful = true → shape.Alike
  | .bool, _ => Reader.Scalar.bool.alike
  | .text, _ => Reader.Scalar.text.alike
  | .float, _ => Reader.Scalar.float.alike
  | .int64, _ => Reader.Scalar.int64.alike
  | .nat64 want, _ => (Reader.Scalar.nat64 want).alike
  | .any, _ => .any
  | .name names, _ => .name names
  | .list item, lawful => (Shape.alike_of_lawful item lawful).list
  | .map item, lawful => (Shape.alike_of_lawful item lawful).map
  | .nullable inner, lawful => (Shape.alike_of_lawful inner lawful).nullable
  | .record title fields, lawful =>
    have ⟨alone, parts⟩ := (Bool.and_eq_true _ _).mp lawful
    .record (of_decide_eq_true alone) (Fields.alike_of_lawful fields parts) title
  | .object title fields, lawful =>
    have ⟨alone, parts⟩ := (Bool.and_eq_true _ _).mp lawful
    .object (of_decide_eq_true alone) (Fields.alike_of_lawful fields parts) title
  | .tagged title tag content names inner, lawful =>
    have ⟨differ, inside⟩ := (Bool.and_eq_true _ _).mp lawful
    (Shape.alike_of_lawful inner inside).tagged (of_decide_eq_true differ) title names
  | .either title first second, lawful => by
    obtain ⟨isScalar, lawful⟩ := (Bool.and_eq_true _ _).mp lawful
    obtain ⟨read, scalar, isRead⟩ := first.reader_scalar isScalar
    have alike := Reader.Alike.either scalar (Shape.alike_of_lawful second lawful) title
    rwa [Shape.Alike, Shape.reader, Shape.reader, isRead, isRead]
  | .checked raw check _, lawful => (Shape.alike_of_lawful raw lawful).checked check

theorem Fields.alike_of_lawful : (fields : Fields) → fields.lawful = true →
    ∀ p ∈ fields.parts, p.shape.Alike
  | .done, _ => nofun
  | .field _ shape _ rest, lawful =>
    have ⟨first, others⟩ := (Bool.and_eq_true _ _).mp lawful
    List.forall_mem_cons.mpr ⟨shape.alike_of_lawful first, Fields.alike_of_lawful rest others⟩

end

/-! ### Forms -/

/-- Whether reading a text directly and reading its value lead to the same, and whoever reads the
value of a text that repeats no key reads the text. -/
structure Form.ReadsAlike {α : Type} (form : Form α) : Prop where
  same {text : List (Option Char)} {a b : α} (direct : form.ofChars text = .ok a)
    (byValue : form.ofCharsByValue text = .ok b) : a = b
  direct {text : List (Option Char)} {b : α} (byValue : form.ofCharsByValue text = .ok b)
    (distinct : (Document.scan text).root.distinct = true) : form.ofChars text = .ok b

section

variable {α : Type} {form : Form α} {text : List (Option Char)} {a : α}

lemma Form.ofChars_eq_ok : form.ofChars text = .ok a ↔
    ∃ d, form.shape.reader .text nestingLimit (Document.scan text).root = .ok d ∧
      (Document.scan text).whole = true ∧ form.resolve d = .ok a := by
  constructor
  · intro read
    obtain ⟨d, read, resolved⟩ := bind_eq_ok.mp read
    obtain ⟨d', isDatum, whole⟩ := bind_eq_ok.mp read
    split at whole
    next isWhole =>
      cases whole
      exact ⟨_, isDatum, isWhole, resolved⟩
    next => cases whole
  · rintro ⟨d, isDatum, whole, resolved⟩
    exact bind_eq_ok.mpr ⟨d, bind_eq_ok.mpr ⟨d, isDatum, if_pos whole⟩, resolved⟩

lemma Form.ofCharsByValue_eq_ok : form.ofCharsByValue text = .ok a ↔
    ∃ v d, (Document.scan text).root.toValue .text nestingLimit = .ok v ∧
      (Document.scan text).whole = true ∧
      form.shape.reader .value nestingLimit v.toTree = .ok d ∧ form.resolve d = .ok a := by
  constructor
  · intro read
    obtain ⟨v, isValue, read⟩ := bind_eq_ok.mp read
    obtain ⟨d, isDatum, resolved⟩ := bind_eq_ok.mp read
    obtain ⟨v', isValue, whole⟩ := bind_eq_ok.mp isValue
    split at whole
    next isWhole =>
      cases whole
      exact ⟨_, d, isValue, isWhole, isDatum, resolved⟩
    next => cases whole
  · rintro ⟨v, d, isValue, whole, isDatum, resolved⟩
    exact bind_eq_ok.mpr ⟨v, bind_eq_ok.mpr ⟨v, isValue, if_pos whole⟩,
      bind_eq_ok.mpr ⟨d, isDatum, resolved⟩⟩

/-- Forms of lawful shapes read alike. -/
theorem Form.ReadsAlike.of_lawful (lawful : form.shape.lawful = true) : form.ReadsAlike where
  same direct byValue := by
    obtain ⟨d, isDatum, -, resolved⟩ := ofChars_eq_ok.mp direct
    obtain ⟨v, d', isValue, -, isDatum', resolved'⟩ := ofCharsByValue_eq_ok.mp byValue
    have read : form.shape.reader .value nestingLimit v.toTree = .ok d :=
      (form.shape.alike_of_lawful lawful).forth isValue isDatum
    obtain rfl := Except.ok.inj (isDatum'.symm.trans read)
    exact Except.ok.inj (resolved.symm.trans resolved')
  direct byValue distinct := by
    obtain ⟨v, d, isValue, whole, isDatum, resolved⟩ := ofCharsByValue_eq_ok.mp byValue
    have read := (form.shape.alike_of_lawful lawful).back isValue distinct isDatum
    exact ofChars_eq_ok.mpr ⟨d, read, whole, resolved⟩

end

end MetricWatch.Json

namespace MetricWatch

/-- Whatever the cluster sends or is sent, and every error of the watch, is read alike from a text
and from its value. -/
theorem read_alike : Metric.form.ReadsAlike ∧ NodeSection.form.ReadsAlike ∧
    ClusterAnswer.form.ReadsAlike ∧ MetricsRequest.form.ReadsAlike ∧ NamesAnswer.form.ReadsAlike ∧
    NodesAnswer.form.ReadsAlike ∧ Error.form.ReadsAlike :=
  ⟨.of_lawful (by decide), .of_lawful (by decide), .of_lawful (by decide), .of_lawful (by decide),
    .of_lawful (by decide), .of_lawful (by decide), .of_lawful (by decide)⟩

/-- An entry of a listing is no list of its parts, as other records may be, by either way. -/
example :
    let text := "\x7b\"metrics\":[[\"a\"]]\x7d".toList.map some
    NamesAnswer.form.ofChars text = .error (.noAlternative "MetricNameEntry") ∧
      NamesAnswer.form.ofCharsByValue text = .error (.noAlternative "MetricNameEntry") ∧
      NamesAnswer.form.ofChars ("[[\"a\"]]".toList.map some) = .ok ⟨[.bare "a"]⟩ := by
  decide +kernel

/-- The value of a text that repeats a key may be read where the text is not. -/
example :
    let text := "\x7b\"metrics\":[\"a\"],\"metrics\":[\"b\"]\x7d".toList.map some
    MetricsRequest.form.ofCharsByValue text = .ok ⟨["b"]⟩ ∧
      MetricsRequest.form.ofChars text = .error (.repeated "metrics") := by
  decide +kernel

end MetricWatch
