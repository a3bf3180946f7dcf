import MetricWatch.Proofs.Json.Alike.Basic

/-!
# Records in texts and in values

A record, and a name beside a content, are read from a text as they are from its value, as long as
their parts are: from an object by what it has for each key, and from an array in order. The main
statements are `Shape.Alike.record` and `Reader.Alike.tagged`.
-/

namespace MetricWatch.Json

variable {room : Nat} {t : Tree} {v : Value} {d : Datum}

/-! ### Records -/

/-- A part of a record. -/
structure Part where
  key : String
  shape : Shape
  absence : Absence

/-- The reader of a part. -/
def Part.reader (route : Route) (p : Part) : FieldReader := ⟨p.key, p.shape.reader route, p.absence⟩

/-- The parts of a record as a list. -/
def Fields.parts : Fields → List Part
  | .done => []
  | .field key shape absence rest => ⟨key, shape, absence⟩ :: rest.parts

lemma Fields.readers_eq (route : Route) :
    (fields : Fields) → fields.readers route = fields.parts.map (Part.reader route)
  | .done => rfl
  | .field key shape absence rest => by
    rw [readers, parts, List.map_cons, readers_eq route rest]
    rfl

/-- Whether the readers of a part for texts and for values read alike, with the same default. -/
structure FieldReader.Alike (onText onValue : FieldReader) : Prop where
  absence : onText.absence = onValue.absence
  read : Reader.Alike onText.read onValue.read

/-- Whether the readers of a shape for texts and for values read alike. -/
def Shape.Alike (shape : Shape) : Prop := Reader.Alike (shape.reader .text) (shape.reader .value)

/-- Only a table may have more elements than there are parts. -/
lemma checkSurplus_eq_ok {route : Route} (limited : route ≠ .table) {length : Nat}
    {surplus : List Tree} :
    checkSurplus route length .closed surplus = .ok () ↔ surplus = [] := by
  cases surplus with
  | nil => cases route <;> exact iff_of_true rfl rfl
  | cons =>
    refine iff_of_false (fun none => ?_) (List.cons_ne_nil _ _)
    cases route with
    | text | value => cases none
    | table => exact limited rfl

/-- Parts in order are read from all elements of an array. -/
lemma readItems_eq_ok {route : Route} {want : String} {fields : List FieldReader} {ts : List Tree}
    (limited : route ≠ .table) :
    (route.descend room >>= fun inside => readParts want .closed inside 0 fields ts >>= fun p =>
        checkSurplus route ts.length .closed p.2 >>= fun _ => .ok (.record p.1)) = .ok d ↔
      ∃ inside ds, route.descend room = .ok inside ∧
        readParts want .closed inside 0 fields ts = .ok (ds, []) ∧ d = .record ds := by
  constructor
  · intro read
    obtain ⟨inside, descends, read⟩ := bind_eq_ok.mp read
    obtain ⟨⟨ds, surplus⟩, isParts, read⟩ := bind_eq_ok.mp read
    obtain ⟨_, none, ⟨⟩⟩ := bind_eq_ok.mp read
    obtain rfl := (checkSurplus_eq_ok limited).mp none
    exact ⟨inside, ds, descends, isParts, rfl⟩
  · rintro ⟨inside, ds, descends, isParts, rfl⟩
    exact bind_eq_ok.mpr ⟨inside, descends, bind_eq_ok.mpr ⟨_, isParts,
      bind_eq_ok.mpr ⟨_, (checkSurplus_eq_ok limited).mpr rfl, rfl⟩⟩⟩

lemma readRecord_items {route : Route} {title : String} {fields : List FieldReader} {ts : List Tree}
    (limited : route ≠ .table) :
    readRecord route title fields room (.array ts .closed) = .ok d ↔
      ∃ inside ds, route.descend room = .ok inside ∧
        readParts (recordLength title fields.length) .closed inside 0 fields ts = .ok (ds, []) ∧
        d = .record ds :=
  readItems_eq_ok limited

section

variable {want want' : String} {fields fields' : List FieldReader} {inside room' : Nat}
  {ts : List Tree} {vs : List Value} {ds : List Datum}

/-- What is read from an array in a text is read from its value. -/
lemma readParts_forth
    (alike : List.Forall₂ FieldReader.Alike fields fields')
    (each : List.Forall₂ (fun t v => t.toValue .text inside = .ok v) ts vs)
    (read : readParts want .closed inside 0 fields ts = .ok (ds, [])) :
    readParts want' .closed room' 0 fields' (vs.map Value.toTree) = .ok (ds, []) := by
  have along : List.Forall₂ (fun t t' => ∃ v, t.toValue .text inside = .ok v ∧ t' = v.toTree) ts
      (vs.map Value.toTree) :=
    List.forall₂_map_right_iff.mpr (each.imp fun t v isValue => ⟨v, isValue, rfl⟩)
  have readers : List.Forall₂ (fun f f' => f.absence = f'.absence ∧ ∀ t t' d,
      (∃ v, t.toValue .text inside = .ok v ∧ t' = v.toTree) → f.read inside t = .ok d →
        f'.read room' t' = .ok d) fields fields' := by
    refine alike.imp fun f f' alike => ⟨alike.absence, ?_⟩
    rintro t _ d ⟨v, isValue, rfl⟩ read
    exact alike.read.forth isValue read
  obtain ⟨rest, read', same⟩ := readParts_along readers along read
  obtain rfl := List.length_eq_zero_iff.mp same
  exact read'

/-- What is read from an array as a value is read from its text, if that repeats no key. -/
lemma readParts_back
    (alike : List.Forall₂ FieldReader.Alike fields fields')
    (each : List.Forall₂ (fun t v => t.toValue .text inside = .ok v) ts vs)
    (distinct : ∀ t ∈ ts, t.distinct = true)
    (read : readParts want' .closed room' 0 fields' (vs.map Value.toTree) = .ok (ds, [])) :
    readParts want .closed inside 0 fields ts = .ok (ds, []) := by
  have along : List.Forall₂ (fun t t' => ∃ v, t'.distinct = true ∧ t'.toValue .text inside = .ok v ∧
      t = v.toTree) (vs.map Value.toTree) ts :=
    List.forall₂_map_left_iff.mpr <| List.Forall₂.flip <|
      ((List.forall₂_and_left ..).mpr ⟨distinct, each⟩).imp fun t v both =>
        ⟨v, both.1, both.2, rfl⟩
  have readers : List.Forall₂ (fun f' f => f'.absence = f.absence ∧ ∀ t' t d,
      (∃ v, t.distinct = true ∧ t.toValue .text inside = .ok v ∧ t' = v.toTree) →
        f'.read room' t' = .ok d → f.read inside t = .ok d) fields' fields := by
    refine List.Forall₂.flip (alike.imp fun f f' alike => ⟨alike.absence.symm, ?_⟩)
    rintro _ t d ⟨v, distinct, isValue, rfl⟩ read
    exact alike.read.back isValue distinct read
  obtain ⟨rest, read', same⟩ := readParts_along readers along read
  obtain rfl := List.length_eq_zero_iff.mp same
  exact read'

end

/-- What is missing in a record does not depend on the route. -/
lemma closeSlots_parts (parts : List Part) (route route' : Route) (slots : List (Option Datum)) :
    closeSlots (parts.map (Part.reader route)) slots
      = closeSlots (parts.map (Part.reader route')) slots := by
  induction parts generalizing slots with
  | nil => rfl
  | cons p parts ih =>
    cases slots with
    | nil => rfl
    | cons slot slots =>
      simp only [List.map_cons, closeSlots, ih]
      rfl

section

variable {inside room' : Nat} {part : Part} {found : Option Tree} {found' : Option Value}
  {slot : Option Datum}

/-- What is found for a part in a text fills its slot just as what is found in the value does. -/
lemma Part.takes_forth (alike : part.shape.Alike)
    (same : Option.Rel (fun t v => t.toValue .text inside = .ok v) found found')
    (takes : (part.reader .text).Takes inside found none slot) :
    (part.reader .value).Takes room' (found'.map Value.toTree) none slot := by
  cases same with
  | none => exact takes
  | some isValue =>
    obtain ⟨d, read, isSlot⟩ := takes
    exact ⟨d, alike.forth isValue read, isSlot⟩

lemma Part.takes_back (alike : part.shape.Alike)
    (same : Option.Rel (fun t v => t.distinct = true ∧ t.toValue .text inside = .ok v) found found')
    (takes : (part.reader .value).Takes room' (found'.map Value.toTree) none slot) :
    (part.reader .text).Takes inside found none slot := by
  cases same with
  | none => exact takes
  | some both =>
    obtain ⟨d, read, isSlot⟩ := takes
    exact ⟨d, alike.back both.2 both.1 read, isSlot⟩

end

namespace Shape

variable {fields : Fields} {members : Members Tree} {entries : Members Value} {inside : Nat}

lemma slots_eq (route route' : Route) (slots : String → Option Datum) :
    (fields.readers route).map (fun f => slots f.key)
      = (fields.readers route').map fun f => slots f.key := by
  rw [Fields.readers_eq, Fields.readers_eq, List.map_map, List.map_map]
  rfl

/-- The slots of a record that a text fills are filled by its value. -/
lemma fillSlots_forth (alone : fields.keys.Nodup) (alike : ∀ p ∈ fields.parts, p.shape.Alike)
    (along : Members.Alongside (fun t v => t.toValue .text inside = .ok v) members entries)
    {filled : List (Option Datum)}
    (fills : fillSlots .text (fields.readers .text) inside (Tree.named members)
      ((fields.readers .text).map fun _ => none) = .ok filled) (room' : Nat) :
    fillSlots .value (fields.readers .value) room'
      (Tree.named (Value.trees (Members.ofList entries)))
      ((fields.readers .value).map fun _ => none) = .ok filled := by
  obtain ⟨slots, rfl, takes⟩ := fillSlots_takes ((fields.keys_readers .text).symm ▸ alone) fills
  rw [slots_eq .text .value]
  have sorted := Members.sorted_ofList entries
  refine fillSlots_of_takes ((fields.keys_readers .value).symm ▸ alone)
    (Value.keys_trees _ ▸ Members.nodup_of_sorted sorted) Value.intact_trees ?_
  rw [Fields.readers_eq] at takes ⊢
  refine List.forall_mem_map.mpr fun p mem => ?_
  rw [Value.get?_trees]
  exact Part.takes_forth (alike p mem) (along.ofList.get? p.key) (takes _ (List.mem_map_of_mem mem))

/-- The slots of a record that a value fills are filled by its text, if that repeats no key. -/
lemma fillSlots_back (alone : fields.keys.Nodup) (alike : ∀ p ∈ fields.parts, p.shape.Alike)
    (along : Members.Alongside (fun t v => t.toValue .text inside = .ok v) members entries)
    (once : (Members.keys members).Nodup) (distinct : ∀ m ∈ members, m.2.distinct = true)
    {room' : Nat} {filled : List (Option Datum)}
    (fills : fillSlots .value (fields.readers .value) room'
      (Tree.named (Value.trees (Members.ofList entries)))
      ((fields.readers .value).map fun _ => none) = .ok filled) :
    fillSlots .text (fields.readers .text) inside (Tree.named members)
      ((fields.readers .text).map fun _ => none) = .ok filled := by
  obtain ⟨slots, rfl, takes⟩ := fillSlots_takes ((fields.keys_readers .value).symm ▸ alone) fills
  rw [slots_eq .value .text]
  have sorted := Members.sorted_ofList entries
  have along' := (List.forall₂_and_left ..).mpr ⟨distinct, along⟩
  have along'' : Members.Alongside (fun t v => t.distinct = true ∧ t.toValue .text inside = .ok v)
      members entries := along'.imp fun m n both => ⟨both.2.1, both.1, both.2.2⟩
  have intact : ∀ m ∈ members, m.2.intact = true := fun m mem => by
    obtain ⟨v, isValue⟩ := along.exists_of_mem mem
    exact Tree.intact_of_toValue m.2 isValue
  refine fillSlots_of_takes ((fields.keys_readers .text).symm ▸ alone) once intact ?_
  rw [Fields.readers_eq] at takes ⊢
  refine List.forall_mem_map.mpr fun p mem => ?_
  have takes' := takes _ (List.mem_map_of_mem mem)
  have once' : (Members.keys entries).Nodup := along.keys ▸ once
  rw [Value.ofList_trees sorted, Value.get?_trees, Members.get?_ofList once'] at takes'
  exact Part.takes_back (alike p mem) (along''.get? p.key) takes'

lemma closeSlots_eq (route route' : Route) (slots : List (Option Datum)) :
    closeSlots (fields.readers route) slots = closeSlots (fields.readers route') slots := by
  rw [Fields.readers_eq, Fields.readers_eq, closeSlots_parts]

lemma readers_alike (alike : ∀ p ∈ fields.parts, p.shape.Alike) :
    List.Forall₂ FieldReader.Alike (fields.readers .text) (fields.readers .value) := by
  rw [Fields.readers_eq, Fields.readers_eq]
  refine List.forall₂_map_left_iff.mpr (List.forall₂_map_right_iff.mpr ?_)
  exact List.forall₂_same.mpr fun p mem => ⟨rfl, alike p mem⟩

lemma Alike.record (alone : fields.keys.Nodup) (alike : ∀ p ∈ fields.parts, p.shape.Alike)
    (title : String) : (Shape.record title fields).Alike where
  forth isValue read := by
    rw [reader] at read ⊢
    cases Tree.says_of_toValue isValue with
    | null | bool | number | string => cases read
    | object descends along =>
      obtain ⟨_, filled, ds, descends', fills, closes, rfl⟩ := readRecord_members.mp read
      obtain rfl := Except.ok.inj (descends.symm.trans descends')
      rw [Value.toTree_object]
      exact readRecord_members.mpr ⟨_, filled, ds, Value.descend_value _,
        fillSlots_forth alone alike along fills _, closeSlots_eq .text .value _ ▸ closes, rfl⟩
    | array descends each =>
      obtain ⟨_, ds, descends', isParts, rfl⟩ := (readRecord_items (by decide)).mp read
      obtain rfl := Except.ok.inj (descends.symm.trans descends')
      rw [Value.toTree_array]
      exact (readRecord_items (by decide)).mpr ⟨_, ds, Value.descend_value _,
        readParts_forth (readers_alike alike) each isParts, rfl⟩
  back isValue distinct read := by
    rw [reader] at read ⊢
    cases Tree.says_of_toValue isValue with
    | null | bool | number | string => cases read
    | object descends along =>
      rw [Value.toTree_object] at read
      obtain ⟨_, filled, ds, -, fills, closes, rfl⟩ := readRecord_members.mp read
      obtain ⟨once, distinct⟩ := Tree.distinct_object.mp distinct
      exact readRecord_members.mpr ⟨_, filled, ds, descends,
        fillSlots_back alone alike along once distinct fills,
        closeSlots_eq .value .text _ ▸ closes, rfl⟩
    | array descends each =>
      rw [Value.toTree_array] at read
      obtain ⟨_, ds, -, isParts, rfl⟩ := (readRecord_items (by decide)).mp read
      exact (readRecord_items (by decide)).mpr ⟨_, ds, descends,
        readParts_back (readers_alike alike) each (Tree.distinct_array.mp distinct) isParts, rfl⟩

lemma Alike.object (alone : fields.keys.Nodup) (alike : ∀ p ∈ fields.parts, p.shape.Alike)
    (title : String) : (Shape.object title fields).Alike := by
  have records := Alike.record alone alike title
  refine ⟨fun isValue read => ?_, fun isValue distinct read => ?_⟩
  · rw [reader, readObject_eq_ok] at read ⊢
    refine ⟨records.forth isValue read.1, ?_⟩
    cases Tree.says_of_toValue isValue with
    | array => exact absurd rfl (read.2 _ _)
    | _ =>
      intro _ _ same
      cases same
  · rw [reader, readObject_eq_ok] at read ⊢
    refine ⟨records.back isValue distinct read.1, ?_⟩
    cases Tree.says_of_toValue isValue with
    | array => exact absurd rfl (read.2 _ _)
    | _ =>
      intro _ _ same
      cases same

end Shape

/-! ### Tagged contents -/

section

variable {route : Route} {title tag content : String} {names : List String} {inner : Reader}
  {members : Members Tree} {ts : List Tree}

/-- Whoever reads a tagged content reads its name and its content from what the map of the members
holds. -/
lemma held_of_readTagged (differ : content ≠ tag)
    (read : readTagged route title tag content names inner room
      (.object (Tree.named members) .closed) = .ok d) :
    ∃ inside t t' name d', route.descend room = .ok inside ∧
      Members.get? (Members.ofList members) tag = some t ∧
      readName route names inside t = .ok name ∧
      Members.get? (Members.ofList members) content = some t' ∧ inner inside t' = .ok d' ∧
      d = .record [name, d'] := by
  obtain ⟨inside, descends, read⟩ := bind_eq_ok.mp read
  obtain ⟨progress, isProgress, read⟩ := bind_eq_ok.mp read
  obtain ⟨_, -, read⟩ := bind_eq_ok.mp read
  have holds := readTaggedMembers_holds differ isProgress
  generalize isTag : Members.get? (Members.ofList members) tag = name at holds
  generalize isContent : Members.get? (Members.ofList members) content = found at holds
  cases holds with
  | nothing | named | waiting => cases read
  | @both t t' name d' isName kept isInner =>
    cases read
    exact ⟨inside, t, t', name, d', descends, rfl, isName, rfl, isInner, rfl⟩

/-- A tagged content is read from members whose keys differ if its name and its content are. -/
lemma readTagged_of_held (differ : content ≠ tag) (alone : (Members.keys members).Nodup)
    (intact : ∀ m ∈ members, m.2.intact = true) {inside : Nat} {t t' : Tree} {name d' : Datum}
    {v : Value} (descends : route.descend room = .ok inside)
    (isTag : Members.get? members tag = some t) (isName : readName route names inside t = .ok name)
    (isContent : Members.get? members content = some t') (kept : t'.toValue route inside = .ok v)
    (isInner : inner inside t' = .ok d') :
    readTagged route title tag content names inner room (.object (Tree.named members) .closed)
      = .ok (.record [name, d']) := by
  let keep (t : Tree) : Except Fault Unit := t.toValue route inside >>= fun _ => .ok ()
  have only {key : String} {s s' : Tree} (found : Members.get? members key = some s)
      (mem : (key, s') ∈ members) : s' = s :=
    Option.some.inj ((Members.get?_of_mem_of_nodup alone mem).symm.trans found)
  obtain ⟨progress, isProgress⟩ : ∃ progress, readTaggedMembers route tag content
      (readName route names inside) (inner inside) keep (Tree.named members) ⟨none, none, none⟩
        = .ok progress := by
    refine exists_readTaggedMembers alone intact (fun s mem => ?_) fun s mem => ?_
    · exact ⟨name, only isTag mem ▸ isName⟩
    · obtain rfl := only isContent mem
      exact ⟨bind_eq_ok.mpr ⟨v, kept, rfl⟩, d', isInner⟩
  have holds := readTaggedMembers_holds differ isProgress
  rw [Members.get?_ofList alone, Members.get?_ofList alone, isTag, isContent] at holds
  refine bind_eq_ok.mpr ⟨inside, descends, bind_eq_ok.mpr ⟨progress, isProgress, ?_⟩⟩
  cases holds with
  | both isName' _ isInner' =>
    rw [Except.ok.inj (isName.symm.trans isName'), Except.ok.inj (isInner.symm.trans isInner')]
    rfl

lemma readTagged_items (limited : route ≠ .table) :
    readTagged route title tag content names inner room (.array ts .closed) = .ok d ↔
      ∃ inside ds, route.descend room = .ok inside ∧
        readParts (taggedTitle title) .closed inside 0
          [⟨tag, readName route names, .required⟩, ⟨content, inner, .required⟩] ts = .ok (ds, []) ∧
        d = .record ds :=
  readItems_eq_ok limited

/-- A name and a content are read alike one after the other. -/
lemma Reader.Alike.readers {onText onValue : Reader} (alike : Alike onText onValue) :
    List.Forall₂ FieldReader.Alike
      [⟨tag, readName .text names, .required⟩, ⟨content, onText, .required⟩]
      [⟨tag, readName .value names, .required⟩, ⟨content, onValue, .required⟩] :=
  .cons ⟨rfl, .name names⟩ (.cons ⟨rfl, alike⟩ .nil)

end

/-- A name beside a content is read from a text as it is from its value. -/
lemma Reader.Alike.tagged {tag content : String} (differ : content ≠ tag) {onText onValue : Reader}
    (alike : Alike onText onValue) (title : String) (names : List String) :
    Alike (readTagged .text title tag content names onText)
      (readTagged .value title tag content names onValue) where
  forth isValue read := by
    cases Tree.says_of_toValue isValue with
    | null | bool | number | string => cases read
    | @object members entries _ descends along =>
      obtain ⟨_, t, t', name, d', descends', isTag, isName, isContent, isInner, rfl⟩ :=
        held_of_readTagged differ read
      obtain rfl := Except.ok.inj (descends.symm.trans descends')
      obtain ⟨v, isTag', nameValue⟩ := along.ofList.get?_right isTag
      obtain ⟨v', isContent', contentValue⟩ := along.ofList.get?_right isContent
      have sorted := Members.sorted_ofList entries
      rw [Value.toTree_object]
      refine readTagged_of_held differ (Value.keys_trees _ ▸ Members.nodup_of_sorted sorted)
        Value.intact_trees (Value.descend_value _) ?_ ((Alike.name names).forth nameValue isName) ?_
        (Tree.toValue_again t' contentValue _) (alike.forth contentValue isInner)
      · rw [Value.get?_trees, isTag', Option.map_some]
      · rw [Value.get?_trees, isContent', Option.map_some]
    | array descends each =>
      obtain ⟨_, ds, descends', isParts, rfl⟩ := (readTagged_items (by decide)).mp read
      obtain rfl := Except.ok.inj (descends.symm.trans descends')
      rw [Value.toTree_array]
      exact (readTagged_items (by decide)).mpr
        ⟨_, ds, Value.descend_value _, readParts_forth alike.readers each isParts, rfl⟩
  back isValue distinct read := by
    cases Tree.says_of_toValue isValue with
    | null | bool | number | string => cases read
    | @object members entries _ descends along =>
      rw [Value.toTree_object] at read
      obtain ⟨_, _, _, name, d', -, isTag, isName, isContent, isInner, rfl⟩ :=
        held_of_readTagged differ read
      obtain ⟨once, distinct⟩ := Tree.distinct_object.mp distinct
      -- No key is repeated, so the map of the entries has just what the text lists.
      have once' : (Members.keys entries).Nodup := along.keys ▸ once
      rw [Value.ofList_trees (Members.sorted_ofList entries), Value.get?_trees,
        Members.get?_ofList once'] at isTag isContent
      obtain ⟨v, tagged, rfl⟩ := Option.map_eq_some_iff.mp isTag
      obtain ⟨v', contained, rfl⟩ := Option.map_eq_some_iff.mp isContent
      obtain ⟨t, isTag', nameValue⟩ := along.get?_left tagged
      obtain ⟨t', isContent', contentValue⟩ := along.get?_left contained
      have distinct' {key : String} {s : Tree} (found : Members.get? members key = some s) :
          s.distinct = true := distinct _ (Members.mem_of_get? found)
      refine readTagged_of_held differ once (fun m mem => ?_) descends isTag'
        ((Alike.name names).back nameValue (distinct' isTag') isName) isContent' contentValue
        (alike.back contentValue (distinct' isContent') isInner)
      obtain ⟨_, isValue⟩ := along.exists_of_mem mem
      exact Tree.intact_of_toValue m.2 isValue
    | array descends each =>
      rw [Value.toTree_array] at read
      obtain ⟨_, ds, -, isParts, rfl⟩ := (readTagged_items (by decide)).mp read
      exact (readTagged_items (by decide)).mpr
        ⟨_, ds, descends,
          readParts_back alike.readers each (Tree.distinct_array.mp distinct) isParts, rfl⟩

end MetricWatch.Json
