import MetricWatch.Proofs.Json.Alike.Forms
import MetricWatch.Proofs.Json.Depth

/-!
# Members that a shape does not know

What a record has no part for is passed over, whatever it is and however deep it nests. So a tree is
read in a shape as the tree without such members is, and a text is read as the value of what its
shape knows of it. The main statements are `Shape.reader_known` and `Shape.Holds.ofText_eq_ok`.
-/

namespace MetricWatch.Json

variable {route : Route} {room : Nat}

/-! ### What a shape knows of a tree -/

mutual

/-- A tree without the members that the records of a shape have no part for. Records are found where
they are parts of records. -/
def Shape.known : Shape → Tree → Tree
  | .record _ fields, .object members ending | .object _ fields, .object members ending =>
    .object (members.filterMap fields.known?) ending
  | _, t => t

/-- A member as the record knows it, if it has a part for it. What is under no text is left to the
reader. -/
def Fields.known? : Fields → Key × Tree → Option (Key × Tree)
  | .done, (.text _, _) => none
  | .done, m => some m
  | .field key shape _ rest, (k, t) =>
    if k = .text key then some (k, shape.known t) else rest.known? (k, t)

end

/-- Whether what a record knows of a member is read by the part that the member is for, as the
member itself is. -/
def Knows (fields : List FieldReader) (known? : Key × Tree → Option (Key × Tree)) (key : String)
    (t : Tree) : Prop :=
  match known? (.text key, t) with
  | none => fields.findIdx? (fun f => f.key == key) = none
  | some m => ∃ t' i f, m = (.text key, t') ∧ fields.findIdx? (fun f => f.key == key) = some i ∧
      fields[i]? = some f ∧ ∀ room, f.read room t' = f.read room t

lemma Fields.known?_other {k : Key} {t : Tree} (other : ∀ key, k ≠ .text key) (fields : Fields) :
    fields.known? (k, t) = some (k, t) := by
  cases fields with
  | done =>
    rw [known?]
    exact fun key _ same => other key (Prod.mk.inj same).1
  | field key shape absence rest => rw [known?, if_neg (other key), rest.known?_other other]

/-- A record is filled as from the members that it knows. -/
lemma fillSlots_known {fields : List FieldReader} {known? : Key × Tree → Option (Key × Tree)}
    (other : ∀ k t, (∀ key, k ≠ .text key) → known? (k, t) = some (k, t))
    (knows : ∀ key t, t.intact = true → Knows fields known? key t) {ms : List (Key × Tree)}
    (intact : Tree.membersIntact ms = true) (slots : List (Option Datum)) :
    fillSlots route fields room (ms.filterMap known?) slots
      = fillSlots route fields room ms slots := by
  induction ms generalizing slots with
  | nil => rfl
  | cons m rest ih =>
    obtain ⟨k, t⟩ := m
    obtain ⟨whole, others⟩ := (Bool.and_eq_true _ _).mp intact
    rw [List.filterMap_cons]
    cases k with
    | malformed | misplaced =>
      rw [other _ _ (by simp)]
      rfl
    | text key =>
      have own := knows key t whole
      unfold Knows at own
      cases known : known? (.text key, t) with
      | none =>
        rw [known] at own
        simp only [fillSlots, own, whole, if_true]
        exact ih others slots
      | some m =>
        rw [known] at own
        obtain ⟨t', i, f, rfl, position, isThere, same⟩ := own
        simp only [fillSlots, position, isThere, ih others]
        cases slots[i]? with
        | none => rfl
        | some slot => simp only [same]

mutual

/-- A tree is read as what the shape knows of it. -/
theorem Shape.reader_known (route : Route) : (shape : Shape) → (t : Tree) → t.intact = true →
    ∀ room, shape.reader route room (shape.known t) = shape.reader route room t
  | .record title fields, .object members ending, intact, room => by
    obtain ⟨-, intact⟩ := (Bool.and_eq_true _ _).mp intact
    have other (k : Key) (t : Tree) (isOther : ∀ key, k ≠ .text key) :
        fields.known? (k, t) = some (k, t) := fields.known?_other isOther
    simp only [Shape.known, Shape.reader, readRecord, readObject,
      fillSlots_known other (fun key t => fields.knows route key t) intact]
  | .object title fields, .object members ending, intact, room => by
    obtain ⟨-, intact⟩ := (Bool.and_eq_true _ _).mp intact
    have other (k : Key) (t : Tree) (isOther : ∀ key, k ≠ .text key) :
        fields.known? (k, t) = some (k, t) := fields.known?_other isOther
    simp only [Shape.known, Shape.reader, readObject,
      fillSlots_known other (fun key t => fields.knows route key t) intact]
  | .object _ _, .null, _, _ | .object _ _, .bool _, _, _ | .object _ _, .number _, _, _
  | .object _ _, .string _, _, _ | .object _ _, .array _ _, _, _ | .object _ _, .broken, _, _
  | .record _ _, .null, _, _ | .record _ _, .bool _, _, _ | .record _ _, .number _, _, _
  | .record _ _, .string _, _, _ | .record _ _, .array _ _, _, _ | .record _ _, .broken, _, _ => rfl
  | .bool, _, _, _ | .text, _, _, _ | .float, _, _, _ | .int64, _, _, _ | .nat64 _, _, _, _
  | .any, _, _, _ | .name _, _, _, _ | .list _, _, _, _ | .map _, _, _, _ | .nullable _, _, _, _
  | .tagged .., _, _, _ | .either .., _, _, _ | .checked .., _, _, _ => rfl

theorem Fields.knows (route : Route) : (fields : Fields) → (key : String) → (t : Tree) →
    t.intact = true → Knows (fields.readers route) fields.known? key t
  | .done, _, _, _ => rfl
  | .field key' shape absence rest, key, t, intact => by
    have later := rest.knows route key t intact
    unfold Knows at later ⊢
    rw [Fields.known?, Fields.readers, List.findIdx?_cons]
    by_cases own : key' = key
    · subst own
      rw [if_pos rfl]
      exact ⟨_, 0, _, rfl, by simp, rfl, shape.reader_known route t intact⟩
    · rw [if_neg (by simpa using Ne.symm own)]
      simp only [beq_iff_eq, own, if_false]
      cases known : rest.known? (.text key, t) with
      | none =>
        rw [known] at later
        simp [later]
      | some m =>
        rw [known] at later
        obtain ⟨t', i, f, rfl, position, isThere, same⟩ := later
        exact ⟨t', i + 1, f, rfl, by simp [position], isThere, same⟩

end

/-! ### Texts -/

/-- Whether a text is JSON that says some value in all that a shape knows of it, and repeats no key
in that. -/
structure Shape.Holds (shape : Shape) (text : String) (v : Value) : Prop where
  whole : (Document.ofString text).whole = true
  intact : (Document.ofString text).root.intact = true
  isValue : (shape.known (Document.ofString text).root).toValue .text nestingLimit = .ok v
  distinct : (shape.known (Document.ofString text).root).distinct = true

/-- An object that a text holds is in order. -/
lemma Shape.Holds.sorted {shape : Shape} {text : String} {entries : Members Value}
    (holds : shape.Holds text (.object entries)) : Members.Sorted entries := by
  have beside := Tree.says_of_toValue holds.isValue
  generalize shape.known (Document.ofString text).root = t at beside
  cases beside with
  | object => exact Members.sorted_ofList _

/-- A text that holds a value is read just as the value is. -/
theorem Shape.Holds.ofText_eq_ok {α : Type} {form : Form α} {text : String} {v : Value} {a : α}
    (holds : form.shape.Holds text v) (lawful : form.shape.lawful = true) :
    form.ofText text = .ok a ↔ form.ofValue v = .ok a := by
  have alike := form.shape.alike_of_lawful lawful
  have known := form.shape.reader_known .text _ holds.intact nestingLimit
  rw [Form.ofText, Form.ofChars_eq_ok, Form.ofValue_eq_ok nestingLimit]
  simp only [Form.resolve_eq_ok]
  constructor
  · rintro ⟨d, read, -, isDatum⟩
    exact ⟨d, alike.forth holds.isValue (known.trans read), isDatum⟩
  · rintro ⟨d, read, isDatum⟩
    exact ⟨d, known.symm.trans (alike.back holds.isValue holds.distinct read), holds.whole, isDatum⟩

end MetricWatch.Json
