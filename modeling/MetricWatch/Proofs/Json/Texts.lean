import MetricWatch.Proofs.Json.Alike.Forms
import MetricWatch.Proofs.Json.Printing

/-!
# What is written as a text is read again

An element whose value is read again is also read again from the text of that value, if no number in
it is a fraction and it does not nest deeper than a text may. It is read as well from any other
text of that value that repeats no key, in whatever order the text lists the members of objects.
The main statement is `Form.Texts.of_returns`.
-/

namespace MetricWatch.Json

variable {route : Route} {room : Nat} {v : Value} {d : Datum}

/-! ### Values that fit a text -/

/-- Whether a value has whole numbers only and does not nest deeper than there is room. -/
inductive Value.Fits : Nat → Value → Prop
  | null {room : Nat} : Fits room .null
  | bool {room : Nat} (b : Bool) : Fits room (.bool b)
  | number {room : Nat} {n : Number} (whole : n.whole = true) : Fits room (.number n)
  | string {room : Nat} (s : String) : Fits room (.string s)
  | array {room : Nat} {items : List Value} (deep : 1 < room)
      (each : ∀ v ∈ items, Fits (room - 1) v) : Fits room (.array items)
  | object {room : Nat} {members : Members Value} (deep : 1 < room)
      (sorted : Members.Sorted members) (each : ∀ m ∈ members, Fits (room - 1) m.2) :
      Fits room (.object members)

lemma Route.descend_text (deep : 1 < room) : Route.descend .text room = .ok (room - 1) :=
  if_neg fun narrow => Nat.not_le_of_lt deep narrow.2

namespace Value.Fits

lemma plain (fits : v.Fits room) : v.toTree.plain = true := by
  induction fits with
  | null | bool | string => rfl
  | number whole => exact whole
  | array _ _ ih =>
    rw [toTree_array]
    exact Tree.plain_array.mpr ⟨rfl, List.forall_mem_map.mpr ih⟩
  | object _ _ _ ih =>
    rw [toTree_object]
    exact Tree.plain_object.mpr ⟨rfl, List.forall_mem_map.mpr ih⟩

lemma distinct (fits : v.Fits room) : v.toTree.distinct = true := by
  induction fits with
  | null | bool | string | number => rfl
  | array _ _ ih =>
    rw [toTree_array]
    exact Tree.distinct_array.mpr (List.forall_mem_map.mpr ih)
  | object _ sorted _ ih =>
    rw [toTree_object]
    refine Tree.distinct_object.mpr ⟨?_, List.forall_mem_map.mpr ih⟩
    exact keys_trees _ ▸ Members.nodup_of_sorted sorted

/-- In a text a value is read from its tree if there is room. -/
lemma toValue_toTree (fits : v.Fits room) : v.toTree.toValue .text room = .ok v := by
  induction fits with
  | null | bool | string | number => rfl
  | array deep _ ih =>
    rw [toTree_array]
    exact Tree.toValue_array.mpr ⟨rfl, _, _, Route.descend_text deep,
      List.forall₂_map_left_iff.mpr (List.forall₂_same.mpr ih), rfl⟩
  | object deep sorted _ ih =>
    rw [toTree_object]
    refine Tree.toValue_named.mpr ⟨rfl, _, _, Route.descend_text deep,
      List.forall₂_map_left_iff.mpr (List.forall₂_same.mpr fun m mem => ⟨rfl, ih m mem⟩), ?_⟩
    rw [Members.ofList_of_sorted sorted]

/-- A value that fits is read from its own text. -/
lemma ofText_toText (fits : v.Fits nestingLimit) :
    Value.ofText (v.toText.toList.map some) = .ok v := by
  have scanned : Document.scan (v.toText.toList.map some) = ⟨v.toTree, true⟩ := by
    rw [Value.toText, String.toList_ofList, ← Value.print_toTree, Tree.scan_print fits.plain]
  simp only [Value.ofText, scanned, fits.toValue_toTree]
  rfl

end Value.Fits

/-! ### Trees of such values -/

namespace Tree

mutual

/-- A tree that repeats no key has whole numbers only if its value has. -/
theorem plain_of_toValue : (t : Tree) → {room : Nat} → {v : Value} →
    t.toValue route room = .ok v → t.distinct = true → v.toTree.plain = true → t.plain = true
  | .null, _, _, _, _, _ | .bool _, _, _, _, _, _ | .string (some _), _, _, _, _, _ => rfl
  | .number (some _), _, _, rfl, _, plain => plain
  | .array items _, _, _, isValue, distinct, plain => by
    obtain ⟨rfl, _, vs, _, each, rfl⟩ := toValue_array.mp isValue
    rw [Value.toTree_array] at plain
    have plain := List.forall_mem_map.mp (plain_array.mp plain).2
    exact plain_array.mpr ⟨rfl, allPlain_of_toValues items each (distinct_array.mp distinct) plain⟩
  | .object ms _, _, _, isValue, distinct, plain => by
    obtain ⟨rfl, _, members, entries, _, rfl, along, rfl⟩ := toValue_object.mp isValue
    obtain ⟨once, distinct⟩ := distinct_object.mp distinct
    rw [Value.toTree_object] at plain
    have plain := List.forall_mem_map.mp (plain_object.mp plain).2
    have perm := Members.perm_ofList (along.keys ▸ once)
    exact plain_object.mpr ⟨rfl, membersPlain_of_toValues _ rfl along distinct fun e mem =>
      plain e (perm.symm.subset mem)⟩

theorem allPlain_of_toValues : (ts : List Tree) → {room : Nat} → {vs : List Value} →
    List.Forall₂ (fun t v => t.toValue route room = .ok v) ts vs →
    (∀ t ∈ ts, t.distinct = true) → (∀ v ∈ vs, v.toTree.plain = true) → ∀ t ∈ ts, t.plain = true
  | [], _, _, _, _, _ => nofun
  | t :: ts, _, _, .cons first others, distinct, plain =>
    have ⟨distinct, distinct'⟩ := List.forall_mem_cons.mp distinct
    have ⟨plain, plain'⟩ := List.forall_mem_cons.mp plain
    List.forall_mem_cons.mpr ⟨plain_of_toValue t first distinct plain,
      allPlain_of_toValues ts others distinct' plain'⟩

theorem membersPlain_of_toValues : (ms : List (Key × Tree)) → {room : Nat} →
    {members : Members Tree} → {entries : Members Value} → ms = named members →
    Members.Alongside (fun t v => t.toValue route room = .ok v) members entries →
    (∀ m ∈ members, m.2.distinct = true) → (∀ e ∈ entries, e.2.toTree.plain = true) →
    ∀ m ∈ members, m.2.plain = true
  | [], _, members, _, isNamed, _, _, _ => by
    obtain rfl : members = [] := List.map_eq_nil_iff.mp isNamed.symm
    exact nofun
  | (key, t) :: ms, _, _, _, isNamed, along, distinct, plain => by
    cases along with
    | nil => cases isNamed
    | cons first others =>
      obtain ⟨same, rest⟩ := List.cons.inj isNamed
      have isTree := (Prod.mk.inj same).2
      obtain ⟨distinct, distinct'⟩ := List.forall_mem_cons.mp distinct
      obtain ⟨plain, plain'⟩ := List.forall_mem_cons.mp plain
      have isFirst := first.2
      rw [← isTree] at isFirst distinct
      refine List.forall_mem_cons.mpr ⟨?_, membersPlain_of_toValues ms rest others distinct' plain'⟩
      exact isTree ▸ plain_of_toValue t isFirst distinct plain

end

end Tree

/-! ### Shapes that fit a text -/

mutual

/-- Whether whatever is written in a shape has whole numbers only and does not nest deeper than
there is room. -/
def Shape.fits (room : Nat) : Shape → Bool
  | .float | .any => false
  | .list item | .map item => decide (1 < room) && item.fits (room - 1)
  | .nullable inner => inner.fits room
  | .record _ fields | .object _ fields => decide (1 < room) && fields.fits (room - 1)
  | .tagged _ _ _ _ inner => decide (1 < room) && inner.fits (room - 1)
  | .either _ first second => first.fits room && second.fits room
  | .checked raw _ _ => raw.fits room
  | _ => true

/-- Whether the shapes of all parts of a record fit. -/
def Fields.fits (room : Nat) : Fields → Bool
  | .done => true
  | .field _ shape _ rest => shape.fits room && rest.fits room

end

lemma Value.fits_ofInt {n : Int} (proper : (ofInt n).Proper) : (ofInt n).Fits room := by
  rw [ofInt] at proper ⊢
  by_cases nonnegative : 0 ≤ n
  · rw [if_pos nonnegative] at proper ⊢
    cases proper with
    | number proper => exact .number (decide_eq_true (p := n.toNat < 2 ^ 64) proper)
  · rw [if_neg nonnegative] at proper ⊢
    cases proper with
    | number proper => exact .number (decide_eq_true (p := -2 ^ 63 ≤ n ∧ n < 0) proper)

lemma Fields.mem_putPart {key : String} {absence : Absence} {members : Members Value}
    {m : String × Value} (mem : m ∈ putPart key absence d v members) :
    m = (key, v) ∨ m ∈ members := by
  unfold putPart at mem
  split at mem
  · exact .inr mem
  · exact Members.mem_put mem

mutual

/-- What is written in a shape that fits has whole numbers only and does not nest deeper than there
is room. -/
theorem Shape.fits_write : (shape : Shape) → {room : Nat} → shape.fits room = true → {d : Datum} →
    (shape.write d).Proper → (shape.write d).Fits room
  | .bool, _, _, d, _ => by
    cases d with
    | bool b => exact .bool b
    | _ => exact .null
  | .text, _, _, d, _ | .name _, _, _, d, _ => by
    cases d with
    | text s => exact .string s
    | _ => exact .null
  | .int64, _, _, d, proper | .nat64 _, _, _, d, proper => by
    cases d with
    | int n => exact Value.fits_ofInt proper
    | _ => exact .null
  | .list item, _, fits, d, proper => by
    obtain ⟨deep, fits⟩ := (Bool.and_eq_true _ _).mp fits
    cases d with
    | list ds =>
      cases proper with
      | array proper =>
        have proper := List.forall_mem_map.mp proper
        refine .array (of_decide_eq_true deep) (List.forall_mem_map.mpr fun d mem => ?_)
        exact Shape.fits_write item fits (proper d mem)
    | _ => exact .null
  | .map item, _, fits, d, proper => by
    obtain ⟨deep, fits⟩ := (Bool.and_eq_true _ _).mp fits
    cases d with
    | map entries =>
      cases proper with
      | object sorted proper =>
        have proper := List.forall_mem_map.mp proper
        refine .object (of_decide_eq_true deep) sorted (List.forall_mem_map.mpr fun e mem => ?_)
        exact Shape.fits_write item fits (proper e mem)
    | _ => exact .null
  | .nullable inner, _, fits, d, proper => by
    cases d with
    | none => exact .null
    | _ => exact Shape.fits_write inner fits proper
  | .record _ fields, _, fits, d, proper | .object _ fields, _, fits, d, proper => by
    obtain ⟨deep, fits⟩ := (Bool.and_eq_true _ _).mp fits
    cases d with
    | record parts =>
      cases proper with
      | object sorted proper =>
        refine .object (of_decide_eq_true deep) sorted fun m mem => ?_
        exact Fields.fits_writeParts fields fits mem (proper m mem)
    | _ => exact .null
  | .tagged _ tag content _ inner, _, fits, d, proper => by
    obtain ⟨deep, fits⟩ := (Bool.and_eq_true _ _).mp fits
    cases d with
    | record parts =>
      rcases parts with _ | ⟨name, _ | ⟨d, _ | _⟩⟩
      case cons.cons.nil =>
        cases name with
        | text name =>
          cases proper with
          | object sorted proper =>
            refine .object (of_decide_eq_true deep) sorted fun m mem => ?_
            rcases List.mem_pair.mp (Members.mem_ofList mem) with rfl | rfl
            · exact .string name
            · exact Shape.fits_write inner fits (proper _ mem)
        | _ => exact .null
      case nil => exact .null
      all_goals cases name <;> exact .null
    | _ => exact .null
  | .either _ first second, _, fits, d, proper => by
    obtain ⟨fits, fits'⟩ := (Bool.and_eq_true _ _).mp fits
    cases d with
    | first d => exact Shape.fits_write first fits proper
    | second d => exact Shape.fits_write second fits' proper
    | _ => exact .null
  | .checked raw _ _, _, fits, _, proper => Shape.fits_write raw fits proper

theorem Fields.fits_writeParts : (fields : Fields) → {room : Nat} → fields.fits room = true →
    {parts : List Datum} → {m : String × Value} → m ∈ fields.writeParts parts → m.2.Proper →
    m.2.Fits room
  | .done, _, _, _, _, mem, _ => nomatch mem
  | .field key shape absence rest, _, fits, d :: ds, m, mem, proper => by
    obtain ⟨first, others⟩ := (Bool.and_eq_true _ _).mp fits
    rcases Fields.mem_putPart mem with rfl | mem
    · exact Shape.fits_write shape first proper
    · exact Fields.fits_writeParts rest others mem proper

end

/-! ### Names beside contents, and alternatives -/

namespace Shape.Keeps

variable {shape shape' inner : Shape} {title tag content name : String} {names : List String}

lemma bool (b : Bool) : Shape.bool.Keeps (.bool b) := ⟨.bool b, fun _ => rfl⟩

lemma first (keeps : shape.Keeps d) : (Shape.either title shape shape').Keeps (.first d) := by
  refine ⟨keeps.proper, fun room => ?_⟩
  rw [reader]
  exact readEither_eq_ok.mpr
    ⟨⟨_, keeps.proper.toValue_toTree room⟩, .inl ⟨d, keeps.reads room, rfl⟩⟩

/-- What is of the second alternative must not be written as something of the first. -/
lemma second (keeps : shape'.Keeps d)
    (other : ∀ room d', shape.reader .value room (shape'.write d).toTree ≠ .ok d') :
    (Shape.either title shape shape').Keeps (.second d) := by
  refine ⟨keeps.proper, fun room => ?_⟩
  rw [reader]
  exact readEither_eq_ok.mpr
    ⟨⟨_, keeps.proper.toValue_toTree room⟩, .inr ⟨other room, d, keeps.reads room, rfl⟩⟩

lemma tagged (differ : content ≠ tag) (known : name ∈ names) (keeps : inner.Keeps d) :
    (Shape.tagged title tag content names inner).Keeps (.record [.text name, d]) := by
  have sorted := Members.sorted_ofList [(tag, Value.string name), (content, inner.write d)]
  have alone : (Members.keys [(tag, Value.string name), (content, inner.write d)]).Nodup := by
    simp [Members.keys, Ne.symm differ]
  refine ⟨.object sorted fun m mem => ?_, fun room => ?_⟩
  · rcases List.mem_pair.mp (Members.mem_ofList mem) with rfl | rfl
    · exact .string name
    · exact keeps.proper
  · have isName (room : Nat) : readName .value names room (Value.string name).toTree
        = .ok (.text name) := chooseName_eq_ok.mpr ⟨known, rfl⟩
    rw [write, reader, Value.toTree_object]
    refine readTagged_of_held differ (Value.keys_trees _ ▸ Members.nodup_of_sorted sorted)
      Value.intact_trees (Value.descend_value _) ?_ (isName _) ?_
      (keeps.proper.toValue_toTree _) (keeps.reads _)
    · rw [Value.get?_trees, Members.get?_ofList alone, Members.get?_cons, if_pos rfl]
      rfl
    · rw [Value.get?_trees, Members.get?_ofList alone, Members.get?_cons, if_neg (Ne.symm differ),
        Members.get?_cons, if_pos rfl]
      rfl

end Shape.Keeps

/-! ### Forms -/

/-- Whether an element is read again from its text, and from any other text of its value that
repeats no key. -/
structure Form.Texts {α : Type} (form : Form α) (a : α) : Prop where
  written : form.ofText (form.toText a) = .ok a
  listed {t : Tree} (isValue : t.toValue .text nestingLimit = .ok (form.toValue a))
    (distinct : t.distinct = true) : form.ofText (String.ofList t.print) = .ok a

/-- Elements that are read again from their value are read again from the texts of it, if it fits a
text. -/
lemma Form.Texts.of_fits {α : Type} {form : Form α} {a : α} (returns : form.Returns a)
    (lawful : form.shape.lawful = true) (valueFits : (form.toValue a).Fits nestingLimit) :
    form.Texts a := by
  have listed {t : Tree} (isValue : t.toValue .text nestingLimit = .ok (form.toValue a))
      (distinct : t.distinct = true) : form.ofText (String.ofList t.print) = .ok a := by
    -- The text is read by its value, which is easier, and then directly, since no key is repeated.
    have plain := Tree.plain_of_toValue t isValue distinct valueFits.plain
    have scanned : Document.scan ((String.ofList t.print).toList.map some) = ⟨t, true⟩ := by
      rw [String.toList_ofList, Tree.scan_print plain]
    refine (ReadsAlike.of_lawful lawful).direct (ofCharsByValue_eq_ok.mpr ?_) (scanned ▸ distinct)
    refine ⟨form.toValue a, form.toDatum a, ?_, ?_, returns.keeps.reads _,
      resolve_eq_ok.mpr returns.known⟩
    · rw [scanned, isValue]
    · rw [scanned]
  refine ⟨?_, listed⟩
  have written := listed valueFits.toValue_toTree valueFits.distinct
  rwa [Value.print_toTree] at written

/-- All values of a shape that fits a text do. -/
theorem Form.Texts.of_returns {α : Type} {form : Form α} {a : α} (returns : form.Returns a)
    (lawful : form.shape.lawful = true) (fits : form.shape.fits nestingLimit = true) :
    form.Texts a :=
  .of_fits returns lawful (Shape.fits_write _ fits returns.keeps.proper)

end MetricWatch.Json
