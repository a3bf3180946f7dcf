import MetricWatch.Cluster.Metrics
import MetricWatch.Proofs.Json.RoundTrip

/-!
# Metrics are written and read again

A metric is written with the name of its payload's kind beside the payload, and read by way of that
name. What is written of a metric without infinities is read as the same metric, and so it is with
the sections and answers that metrics stand in. What is read is of the kind that is named, and the
payload is what the form of that kind makes of it, whatever other forms it has as well. The main
statements are `Metric.ofValue_eq_ok` and `Metric.written_and_read`.
-/

namespace MetricWatch

open Json (Value Datum Shape Fields Form Members FieldReader Reads)

/-! ### Figures -/

/-- Parts of a record that are all floating point numbers. -/
def floatFields : List String → Fields
  | [] => .done
  | key :: keys => .need key .float (floatFields keys)

lemma keeps_floatFields {keys : List String} {xs : List Binary64}
    (length : keys.length = xs.length) (finite : ∀ x ∈ xs, x.isFinite = true) :
    (floatFields keys).Keeps (xs.map .float) := by
  induction keys generalizing xs with
  | nil =>
    obtain rfl := List.length_eq_zero_iff.mp length.symm
    exact .done
  | cons key keys ih =>
    cases xs with
    | nil => cases length
    | cons x xs =>
      obtain ⟨first, rest⟩ := List.forall_mem_cons.mp finite
      exact .field (.float first) nofun (ih (Nat.succ.inj length) rest)

lemma yields_floatFields (keys : List String) : (floatFields keys).Yields := by
  induction keys with
  | nil => exact .done
  | cons key keys ih => exact .field .float nofun ih

namespace Rate

variable {r : Rate}

/-- The figures of a rate. -/
def figures (r : Rate) : List Binary64 :=
  [r.total, r.mean, r.oneMinute, r.fiveMinute, r.fifteenMinute]

/-- Whether all figures of a rate are finite. -/
def IsFinite (r : Rate) : Prop := ∀ x ∈ r.figures, x.isFinite = true

instance (r : Rate) : Decidable r.IsFinite :=
  inferInstanceAs (Decidable (∀ x ∈ r.figures, x.isFinite = true))

/-- The keys of the figures. -/
def keys : List String := ["total", "mean", "one_minute", "five_minute", "fifteen_minute"]

lemma returns (finite : r.IsFinite) : form.Returns r := by
  have keeps : (floatFields keys).Keeps (r.figures.map .float) := keeps_floatFields rfl finite
  exact ⟨.record (by decide) keeps, rfl⟩

lemma yields : form.shape.Yields := .record (by decide) (yields_floatFields keys)

lemma isFinite_of_datum {d : Datum} (proper : d.Proper) (known : form.ofDatum? d = some r) :
    r.IsFinite := by
  unfold form at known
  dsimp only at known
  split at known
  · cases known
    exact fun x mem => (proper.of_mem (List.mem_map_of_mem mem)).isFinite
  · cases known

end Rate

namespace Timing

variable {t : Timing}

/-- The figures of a distribution. -/
def figures (t : Timing) : List Binary64 :=
  [t.percentile95, t.percentile98, t.percentile99, t.deviation, t.mean, t.min, t.max]

/-- Whether all figures of a distribution are finite. -/
def IsFinite (t : Timing) : Prop := ∀ x ∈ t.figures, x.isFinite = true

instance (t : Timing) : Decidable t.IsFinite :=
  inferInstanceAs (Decidable (∀ x ∈ t.figures, x.isFinite = true))

/-- The keys of the figures. -/
def keys : List String :=
  ["95th_percentile", "98th_percentile", "99th_percentile", "std_dev", "mean", "min", "max"]

lemma returns (finite : t.IsFinite) : form.Returns t := by
  have keeps : (floatFields keys).Keeps (t.figures.map .float) := keeps_floatFields rfl finite
  exact ⟨.record (by decide) keeps, rfl⟩

lemma yields : form.shape.Yields := .record (by decide) (yields_floatFields keys)

lemma isFinite_of_datum {d : Datum} (proper : d.Proper) (known : form.ofDatum? d = some t) :
    t.IsFinite := by
  unfold form at known
  dsimp only at known
  split at known
  · cases known
    exact fun x mem => (proper.of_mem (List.mem_map_of_mem mem)).isFinite
  · cases known

end Timing

/-! ### Payloads -/

namespace Payload

variable {p : Payload} {kind : MetricKind} {d : Datum}

/-- Whether all floating point numbers of a payload are finite; what a gauge reports is a value that
can be read. -/
def Proper : Payload → Prop
  | .counter _ => True
  | .gauge v => v.Proper
  | .meter r _ => r.IsFinite
  | .timer r _ _ t => r.IsFinite ∧ t.IsFinite
  | .histogram t _ => t.IsFinite

lemma keeps (proper : p.Proper) : (shape p.kind).Keeps p.toDatum := by
  cases p with
  | counter count => exact .record (by decide) (.field (Form.Returns.int64 count).keeps nofun .done)
  | gauge v => exact .record (by decide) (.field (.any proper) nofun .done)
  | meter r unit =>
    exact .record (by decide)
      (.field (Rate.returns proper).keeps nofun <| .field (.text unit) nofun .done)
  | timer r unit durationUnit t =>
    obtain ⟨rate, time⟩ := proper
    refine .record (by decide)
      (.field (Rate.returns rate).keeps nofun <| .field (.text unit) nofun ?_)
    have others : (Fields.need "time" Timing.form.shape .done).Keeps [Timing.form.toDatum t] :=
      .field (Timing.returns time).keeps nofun .done
    cases durationUnit with
    | none => exact .left others
    | some u => exact .field (.some (.text u) nofun nofun) (fun _ => nofun) others
  | histogram t count =>
    exact .record (by decide) (.field (Timing.returns proper).keeps nofun <|
      .field (Form.Returns.int64 count).keeps nofun .done)

lemma ofDatum?_toDatum (p : Payload) : ofDatum? p.kind p.toDatum = some p := by
  have count (n : Int64) : Form.int64.ofDatum? (Form.int64.toDatum n) = some n :=
    (Form.Returns.int64 n).known
  cases p with
  | counter n => simp only [kind, toDatum, ofDatum?, count, bind, Option.bind]
  | gauge | meter => rfl
  | timer _ _ durationUnit => cases durationUnit <;> rfl
  | histogram t n =>
    have time : Timing.form.ofDatum? (Timing.form.toDatum t) = some t := rfl
    simp only [kind, toDatum, ofDatum?, time, count, bind, Option.bind]

lemma yields (kind : MetricKind) : (shape kind).Yields := by
  cases kind with
  | counter => exact .record (by decide) (.field .int64 nofun .done)
  | gauge => exact .record (by decide) (.field .any nofun .done)
  | meter => exact .record (by decide) (.field Rate.yields nofun <| .field .text nofun .done)
  | timer =>
    exact .record (by decide) (.field Rate.yields nofun <| .field .text nofun <|
      .field (.nullable .text) nofun <| .field Timing.yields nofun .done)
  | histogram => exact .record (by decide) (.field Timing.yields nofun <| .field .int64 nofun .done)

/-- A payload is of the kind whose form it is read in. -/
lemma of_datum (proper : d.Proper) (known : ofDatum? kind d = some p) :
    p.Proper ∧ p.kind = kind := by
  unfold ofDatum? at known
  split at known
  next count =>
    obtain ⟨n, -, ⟨⟩⟩ := Option.bind_eq_some_iff.mp known
    exact ⟨trivial, rfl⟩
  next v =>
    cases known
    exact ⟨(proper.of_mem List.mem_cons_self).of_value, rfl⟩
  next rate unit =>
    obtain ⟨r, isRate, ⟨⟩⟩ := Option.bind_eq_some_iff.mp known
    exact ⟨Rate.isFinite_of_datum (proper.of_mem (by simp)) isRate, rfl⟩
  next rate unit durationUnit time =>
    obtain ⟨r, isRate, known⟩ := Option.bind_eq_some_iff.mp known
    obtain ⟨u, -, known⟩ := Option.bind_eq_some_iff.mp known
    obtain ⟨t, isTime, ⟨⟩⟩ := Option.bind_eq_some_iff.mp known
    exact ⟨⟨Rate.isFinite_of_datum (proper.of_mem (by simp)) isRate,
      Timing.isFinite_of_datum (proper.of_mem (by simp)) isTime⟩, rfl⟩
  next time count =>
    obtain ⟨t, isTime, known⟩ := Option.bind_eq_some_iff.mp known
    obtain ⟨n, -, ⟨⟩⟩ := Option.bind_eq_some_iff.mp known
    exact ⟨Timing.isFinite_of_datum (proper.of_mem (by simp)) isTime, rfl⟩
  next => cases known

end Payload

/-! ### Metrics -/

namespace Metric

variable {m : Metric} {v : Value} {d : Datum} {room : Nat}

/-- Whether all floating point numbers of a metric are finite. -/
def Proper (m : Metric) : Prop := m.payload.Proper

lemma unrefine_toDatum (m : Metric) : unrefine (form.toDatum m)
    = .record [.text m.fullName, .text m.name, .text m.kind.name, .value m.payload.toValue] := by
  simp only [form, unrefine, MetricKind.ofName?_name]
  rfl

lemma Proper.returns (proper : m.Proper) : form.Returns m := by
  have payload : (Payload.shape m.kind).Keeps m.payload.toDatum := m.payload.keeps proper
  have raw : rawShape.Keeps (unrefine (form.toDatum m)) := by
    rw [unrefine_toDatum]
    have known : m.kind.name ∈ MetricKind.all.map MetricKind.name := by cases m.kind <;> decide
    exact .record (by decide) (.field (.text m.fullName) nofun <| .field (.text m.name) nofun <|
      .field (.name known) nofun <| .field (.any payload.proper) nofun .done)
  have accepted : refine (unrefine (form.toDatum m)) = .ok (form.toDatum m) := by
    rw [unrefine_toDatum]
    have read : (Payload.shape m.kind).readValue m.payload.toValue = .ok m.payload.toDatum :=
      payload.reads _
    simp only [refine, MetricKind.ofName?_name, read]
    rfl
  refine ⟨.checked raw accepted, ?_⟩
  have known : Payload.ofDatum? m.kind m.payload.toDatum = some m.payload := m.payload.ofDatum?_toDatum
  simp only [form, MetricKind.ofName?_name, bind, Option.bind, known]

/-- A metric is written with the name of its payload's kind beside the payload. -/
lemma toValue_eq (m : Metric) : form.toValue m = .object [("full_name", .string m.fullName),
    ("metric", m.payload.toValue), ("name", .string m.name),
    ("type", .string m.payload.kind.name)] := by
  have written : form.toValue m = rawShape.write (unrefine (form.toDatum m)) := by
    rw [Form.toValue, form, Shape.write]
  rw [written, unrefine_toDatum]
  rfl

/-! ### Reading a metric -/

/-- The keys of a metric. -/
def keys : List String := ["full_name", "name", "type", "metric"]

/-- Whether a value says what a metric is: its names, something that names its kind, and something
that is its payload in the form of that kind. -/
def Told (v : Value) (m : Metric) : Prop :=
  ∃ tag payload d, v.parts? keys = some [some (.string m.fullName), some (.string m.name),
      some tag, some payload] ∧ tag.Names m.kind.name ∧
    (Payload.shape m.kind).readValue payload = .ok d ∧ Payload.ofDatum? m.kind d = some m.payload

lemma readRaw_eq_ok (proper : v.Proper) : rawShape.reader .value room v.toTree = .ok d ↔
    ∃ fullName name tag payload, ∃ kind : MetricKind, v.parts? keys = some [some (.string fullName),
        some (.string name), some tag, some payload] ∧ tag.Names kind.name ∧
      d = .record [.text fullName, .text name, .text kind.name, .value payload] := by
  constructor
  · intro read
    obtain ⟨founds, parts, found, reads, rfl⟩ := (Fields.reader_eq_ok (by decide) proper).mp read
    obtain _ | ⟨gives₁, _ | ⟨gives₂, _ | ⟨gives₃, _ | ⟨gives₄, _ | _⟩⟩⟩⟩ := reads
    obtain ⟨_, rfl, isText₁⟩ := FieldReader.gives_required.mp gives₁
    obtain ⟨_, rfl, isText₂⟩ := FieldReader.gives_required.mp gives₂
    obtain ⟨tag, rfl, isName⟩ := FieldReader.gives_required.mp gives₃
    obtain ⟨payload, rfl, isValue⟩ := FieldReader.gives_required.mp gives₄
    obtain ⟨fullName, rfl, rfl⟩ := Json.readText_eq_ok.mp isText₁
    obtain ⟨name, rfl, rfl⟩ := Json.readText_eq_ok.mp isText₂
    obtain ⟨_, known, names, rfl⟩ := Json.readName_eq_ok.mp isName
    obtain ⟨kind, -, rfl⟩ := List.mem_map.mp known
    obtain rfl := (Shape.any_eq_ok (proper.of_parts found (by simp))).mp isValue
    exact ⟨fullName, name, tag, payload, kind, found, names, rfl⟩
  · rintro ⟨fullName, name, tag, payload, kind, found, names, rfl⟩
    have isText (room : Nat) (s : String) :
        Json.readText room (Value.string s).toTree = .ok (.text s) := rfl
    have isName (room : Nat) : Json.readName .value (MetricKind.all.map MetricKind.name) room
        tag.toTree = .ok (.text kind.name) := by
      have known : kind.name ∈ MetricKind.all.map MetricKind.name := by cases kind <;> decide
      exact Json.readName_eq_ok.mpr ⟨kind.name, known, names, rfl⟩
    have isValue (room : Nat) :
        Shape.any.reader .value room payload.toTree = .ok (.value payload) :=
      (Shape.any_eq_ok (proper.of_parts found (by simp))).mpr rfl
    exact (Fields.reader_eq_ok (by decide) proper).mpr ⟨_, _, found,
      .cons (FieldReader.gives_required.mpr ⟨_, rfl, isText _ fullName⟩) <|
      .cons (FieldReader.gives_required.mpr ⟨_, rfl, isText _ name⟩) <|
      .cons (FieldReader.gives_required.mpr ⟨_, rfl, isName _⟩) <|
      .cons (FieldReader.gives_required.mpr ⟨_, rfl, isValue _⟩) .nil, rfl⟩

/-- The payload of a metric whose kind is known is read in the form of that kind. -/
lemma refine_eq_ok {fullName name : String} {kind : MetricKind} {payload : Value} :
    refine (.record [.text fullName, .text name, .text kind.name, .value payload]) = .ok d ↔
      ∃ d', (Payload.shape kind).readValue payload = .ok d' ∧
        d = .record [.text fullName, .text name, .text kind.name, d'] := by
  simp only [refine, MetricKind.ofName?_name]
  cases (Payload.shape kind).readValue payload with
  | error => simp
  | ok d' => simp [eq_comm]

/-- The metric that data stands for. -/
lemma ofDatum?_eq_some {fullName name : String} {kind : MetricKind} :
    form.ofDatum? (.record [.text fullName, .text name, .text kind.name, d]) = some m ↔
      ∃ payload, Payload.ofDatum? kind d = some payload ∧ ⟨fullName, name, payload⟩ = m := by
  simp only [form, MetricKind.ofName?_name, bind, Option.bind_some, Option.bind_eq_some_iff,
    Option.some.injEq]

/-- A metric is read from a value exactly if the value says what it is. -/
theorem ofValue_eq_ok (proper : v.Proper) : form.ofValue v = .ok m ↔ Told v m := by
  constructor
  · intro read
    obtain ⟨d, read, resolved⟩ := Json.bind_eq_ok.mp read
    obtain ⟨raw, isRaw, refined⟩ := Json.readChecked_eq_ok.mp read
    obtain ⟨fullName, name, tag, payload, kind, found, names, rfl⟩ :=
      (readRaw_eq_ok proper).mp isRaw
    obtain ⟨d', isPayload, rfl⟩ := refine_eq_ok.mp refined
    obtain ⟨p, known, rfl⟩ := ofDatum?_eq_some.mp (Form.resolve_eq_ok.mp resolved)
    have data : d'.Proper :=
      Payload.yields kind _ payload d' (proper.of_parts found (by simp)) isPayload
    obtain ⟨-, rfl⟩ := Payload.of_datum data known
    exact ⟨tag, payload, d', found, names, isPayload, known⟩
  · rintro ⟨tag, payload, d, found, names, isPayload, known⟩
    let parts (d : Datum) : Datum := .record [.text m.fullName, .text m.name, .text m.kind.name, d]
    have isRaw : rawShape.reader .value Json.nestingLimit v.toTree = .ok (parts (.value payload)) :=
      (readRaw_eq_ok proper).mpr ⟨m.fullName, m.name, tag, payload, m.kind, found, names, rfl⟩
    have refined : refine (parts (.value payload)) = .ok (parts d) :=
      refine_eq_ok.mpr ⟨d, isPayload, rfl⟩
    have resolved : form.resolve (parts d) = .ok m :=
      Form.resolve_eq_ok.mpr (ofDatum?_eq_some.mpr ⟨m.payload, known, rfl⟩)
    exact Json.bind_eq_ok.mpr ⟨_, Json.readChecked_eq_ok.mpr ⟨_, isRaw, refined⟩, resolved⟩

/-- Whatever is read is proper, so that it can be written and read again. -/
lemma Told.proper (proper : v.Proper) (told : Told v m) : m.Proper := by
  obtain ⟨tag, payload, d, found, -, isPayload, known⟩ := told
  have data : d.Proper :=
    Payload.yields m.kind _ payload d (proper.of_parts found (by simp)) isPayload
  exact (Payload.of_datum data known).1

end Metric

/-! ### Sections and answers -/

namespace NodeSection

variable {s : NodeSection}

/-- Whether all floating point numbers of a section are finite. -/
def Proper (s : NodeSection) : Prop := ∀ m ∈ s.metrics, m.Proper

lemma Proper.returns (proper : s.Proper) : form.Returns s := by
  have metrics : (Form.list Metric.form).Returns s.metrics :=
    .list fun m mem => (proper m mem).returns
  have total : (Form.nullable (.nat64 "usize")).Returns s.total := by
    cases s.total with
    | none => exact .none
    | some n => exact .some (.nat64 n) nofun nofun
  refine ⟨.record (by decide) (.field metrics.keeps nofun ?_), ?_⟩
  · cases isTotal : s.total with
    | none => exact .left .done
    | some n => exact .field (isTotal ▸ total.keeps) (fun _ => nofun) .done
  · simp only [form, metrics.known, total.known, bind, Option.bind_some]

end NodeSection

namespace ClusterAnswer

variable {answer : ClusterAnswer}

/-- Whether an answer is a map in order of sections whose floating point numbers are finite. -/
structure Proper (answer : ClusterAnswer) : Prop where
  sorted : Members.Sorted answer
  sections : ∀ e ∈ answer, ∀ s, e.2 = some s → s.Proper

lemma Proper.returns (proper : Proper answer) : form.Returns answer := by
  refine .members proper.sorted fun e mem => ?_
  cases isSection : e.2 with
  | none => exact .none
  | some s => exact .some (proper.sections e mem s isSection).returns nofun nofun

end ClusterAnswer

/-- A metric whose floating point numbers are finite is written and read again as it is, and so are
the sections and the answers made of such metrics. The name under `type` is that of its payload's
kind. Whatever is read is such a metric, of the kind that is named and with what the form of that
kind makes of the payload. -/
theorem Metric.written_and_read :
    (∀ m : Metric, m.Proper → Metric.form.ofValue (Metric.form.toValue m) = .ok m) ∧
      (∀ s : NodeSection, s.Proper →
        NodeSection.form.ofValue (NodeSection.form.toValue s) = .ok s) ∧
      (∀ answer : ClusterAnswer, ClusterAnswer.Proper answer →
        ClusterAnswer.form.ofValue (ClusterAnswer.form.toValue answer) = .ok answer) ∧
      (∀ m : Metric, Metric.form.toValue m = .object [("full_name", .string m.fullName),
        ("metric", m.payload.toValue), ("name", .string m.name),
        ("type", .string m.payload.kind.name)]) ∧
      ∀ v : Value, v.Proper → ∀ m, Metric.form.ofValue v = .ok m → m.Proper ∧ Metric.Told v m := by
  refine ⟨fun m proper => proper.returns.ofValue_toValue,
    fun s proper => proper.returns.ofValue_toValue,
    fun answer proper => proper.returns.ofValue_toValue, Metric.toValue_eq,
    fun v proper m read => ?_⟩
  have told := (Metric.ofValue_eq_ok proper).mp read
  exact ⟨told.proper proper, told⟩

/-- A timer and a gauge in an answer beside a node that could not be asked. If the timer's payload
stands under the name of meters, it is read as a meter. -/
theorem written_and_read_timer :
    let one : Binary64 := ⟨0x3ff0000000000000⟩
    let rate : Rate := ⟨one, one, one, one, .zero⟩
    let time : Timing := ⟨one, one, one, .zero, one, .zero, one⟩
    let timer : Metric := ⟨"rest.requests", "requests", .timer rate "events/second" none time⟩
    let gauge : Metric :=
      ⟨"jvm.deadlocks", "deadlocks", .gauge (.object [("ids", .array []), ("since", .null)])⟩
    let answer : ClusterAnswer := [("n1", some ⟨[timer, gauge], none⟩), ("n2", none)]
    let asMeter : Value := .object [("full_name", .string "rest.requests"),
      ("metric", timer.payload.toValue), ("name", .string "requests"), ("type", .string "meter")]
    let meter : Metric := ⟨"rest.requests", "requests", .meter rate "events/second"⟩
    ClusterAnswer.form.ofValue (ClusterAnswer.form.toValue answer) = .ok answer ∧
      Metric.form.ofValue (Metric.form.toValue timer) = .ok timer ∧
      Metric.form.ofValue asMeter = .ok meter ∧ Metric.Told asMeter meter := by
  intro one rate time timer gauge answer asMeter meter
  have isTimer : timer.Proper := by
    refine ⟨?_, ?_⟩
    · unfold rate one
      decide
    · unfold time one
      decide
  have isGauge : gauge.Proper :=
    .object (by decide) (List.forall_mem_cons.mpr ⟨.array nofun, List.forall_mem_singleton.mpr .null⟩)
  have isAnswer : ClusterAnswer.Proper answer := by
    refine ⟨by unfold answer; decide, fun e mem s isSection m isMetric => ?_⟩
    simp only [answer, List.mem_cons, List.not_mem_nil, or_false] at mem
    rcases mem with rfl | rfl
    · cases isSection
      rcases List.mem_pair.mp isMetric with rfl | rfl
      · exact isTimer
      · exact isGauge
    · cases isSection
  have isPayload : timer.payload.toValue.Proper := (timer.payload.keeps isTimer).proper
  have isValue : asMeter.Proper := by
    refine .object (by unfold timer rate time one; decide) fun m mem => ?_
    simp only [List.mem_cons, List.not_mem_nil, or_false] at mem
    rcases mem with rfl | rfl | rfl | rfl
    · exact .string _
    · exact isPayload
    · exact .string _
    · exact .string _
  have read : Metric.form.ofValue asMeter = .ok meter := by
    unfold asMeter meter timer rate time one
    rfl
  obtain ⟨metrics, -, answers, -, told⟩ := Metric.written_and_read
  exact ⟨answers answer isAnswer, metrics timer isTimer, read, (told asMeter isValue meter read).2⟩

end MetricWatch
