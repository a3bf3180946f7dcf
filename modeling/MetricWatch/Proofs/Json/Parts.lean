import MetricWatch.Proofs.Json.Slots
import MetricWatch.Proofs.Numbers
import Mathlib.Data.List.Forall2
import Mathlib.Data.List.Nodup

/-!
# Values read part by part

The tree of a value has no break, and a record is read from it part by part: each part from the
member of an object under its key, or from the element of an array at its position, in whatever
order the members stand. The main statement is `readRecord_eq_ok`.
-/

namespace MetricWatch.Json

variable {room : Nat} {v : Value} {title : String} {d : Datum} {fields : List FieldReader}

/-! ### Values -/

/-- Whether a value is one that can be read: its numbers are such as stand in JSON, and its objects
are maps in key order. -/
inductive Value.Proper : Value → Prop
  | null : Proper .null
  | bool (b : Bool) : Proper (.bool b)
  | number {n : Number} (proper : n.Proper) : Proper (.number n)
  | string (s : String) : Proper (.string s)
  | array {items : List Value} (proper : ∀ v ∈ items, Proper v) : Proper (.array items)
  | object {members : Members Value} (sorted : Members.Sorted members)
      (proper : ∀ m ∈ members, Proper m.2) : Proper (.object members)

namespace Value

mutual

/-- The tree of a value has no break. -/
theorem intact_toTree : (v : Value) → v.toTree.intact = true
  | .null | .bool _ | .number _ | .string _ => rfl
  | .array items => by
    rw [toTree, Tree.intact, intact_listToTrees items]
    rfl
  | .object members => by
    rw [toTree, Tree.intact, intact_membersToTrees members]
    rfl

theorem intact_listToTrees : (items : List Value) → Tree.allIntact (listToTrees items) = true
  | [] => rfl
  | v :: rest => by
    rw [listToTrees, Tree.allIntact, intact_toTree v, intact_listToTrees rest]
    rfl

theorem intact_membersToTrees : (members : List (String × Value)) →
    Tree.membersIntact (membersToTrees members) = true
  | [] => rfl
  | (_, v) :: rest => by
    rw [membersToTrees, Tree.membersIntact, intact_toTree v, intact_membersToTrees rest]
    rfl

end

/-- Only texts are limited in how deep they nest. -/
@[simp] lemma descend_value (room : Nat) : Route.descend .value room = .ok (room - 1) := by
  simp [Route.descend]

lemma toValues_listToTrees {items : List Value}
    (each : ∀ v ∈ items, v.toTree.toValue .value room = .ok v) :
    Tree.toValues .value room (listToTrees items) = .ok items := by
  induction items with
  | nil => rfl
  | cons v rest ih =>
    rw [listToTrees, Tree.toValues, each v List.mem_cons_self,
      ih fun v mem => each v (List.mem_cons_of_mem _ mem)]
    rfl

lemma toMembers_membersToTrees {members : List (String × Value)}
    (each : ∀ m ∈ members, m.2.toTree.toValue .value room = .ok m.2) :
    Tree.toMembers .value room (membersToTrees members) = .ok members := by
  induction members with
  | nil => rfl
  | cons m rest ih =>
    obtain ⟨key, v⟩ := m
    rw [membersToTrees, Tree.toMembers, each (key, v) List.mem_cons_self,
      ih fun m mem => each m (List.mem_cons_of_mem _ mem)]
    rfl

/-- A value is read from its tree. -/
theorem Proper.toValue_toTree (proper : v.Proper) (room : Nat) :
    v.toTree.toValue .value room = .ok v := by
  induction proper generalizing room with
  | null | bool | number | string => rfl
  | array _ ih =>
    rw [toTree, Tree.toValue, descend_value]
    simp only [bind, Except.bind, toValues_listToTrees fun v mem => ih v mem (room - 1),
      Ending.check]
  | object sorted _ ih =>
    rw [toTree, Tree.toValue, descend_value]
    simp only [bind, Except.bind, toMembers_membersToTrees fun m mem => ih m mem (room - 1),
      Ending.check, Members.ofList_of_sorted sorted]

end Value

/-! ### Trees of values -/

lemma Value.listToTrees_eq (items : List Value) : listToTrees items = items.map toTree := by
  induction items with
  | nil => rfl
  | cons v rest ih => rw [listToTrees, ih, List.map_cons]

/-- The members of an object as trees. -/
def Value.trees (members : Members Value) : Members Tree := members.map fun m => (m.1, m.2.toTree)

lemma Value.toTree_array (items : List Value) :
    (Value.array items).toTree = .array (items.map toTree) .closed := by
  rw [toTree, listToTrees_eq]

lemma Value.toTree_object (members : Members Value) :
    (Value.object members).toTree = .object (Tree.named (trees members)) .closed := by
  have isNamed : membersToTrees members = Tree.named (trees members) := by
    induction members with
    | nil => rfl
    | cons m rest ih =>
      rw [membersToTrees, ih, Tree.named, Tree.named, trees, trees, List.map_cons, List.map_cons]
  rw [toTree, isNamed]

lemma Value.get?_trees (members : Members Value) (key : String) :
    Members.get? (trees members) key = (Members.get? members key).map toTree := by
  induction members with
  | nil => rfl
  | cons m rest ih =>
    rw [trees, List.map_cons, Members.get?_cons, Members.get?_cons]
    split
    · rfl
    · exact ih

lemma Value.keys_trees (members : Members Value) :
    Members.keys (trees members) = Members.keys members := by
  rw [trees, Members.keys, List.map_map]
  rfl

lemma Value.intact_trees {members : Members Value} : ∀ m ∈ trees members, m.2.intact = true :=
  List.forall_mem_map.mpr fun m _ => intact_toTree m.2

/-- The members of an object in order are their own map. -/
lemma Value.ofList_trees {members : Members Value} (sorted : Members.Sorted members) :
    Members.ofList (trees members) = trees members :=
  Members.ofList_of_sorted (List.pairwise_map.mpr sorted)

/-! ### Texts and names -/

lemma readText_eq_ok : readText room v.toTree = .ok d ↔ ∃ s, v = .string s ∧ d = .text s := by
  constructor
  · intro read
    cases v with
    | string s =>
      cases read
      exact ⟨s, rfl, rfl⟩
    | _ => cases read
  · rintro ⟨s, rfl, rfl⟩
    rfl

/-- Whether a value names something: as a text, or as the only key of an object, over null. -/
def Value.Names (v : Value) (name : String) : Prop :=
  v = .string name ∨ v = .object [(name, .null)]

lemma chooseName_eq_ok {names : List String} {s : String} :
    chooseName names s = .ok d ↔ s ∈ names ∧ d = .text s := by
  unfold chooseName
  split
  next known => simp [known, eq_comm]
  next unknown => simp [unknown]

lemma readUnit_eq_ok {t : Tree} : readUnit t = .ok () ↔ t = .null := by
  cases t <;> simp [readUnit]

/-- A name is read from a value that names it. -/
lemma readName_eq_ok {names : List String} : readName .value names room v.toTree = .ok d ↔
    ∃ s ∈ names, v.Names s ∧ d = .text s := by
  constructor
  · intro read
    cases v with
    | string s =>
      obtain ⟨known, rfl⟩ := chooseName_eq_ok.mp read
      exact ⟨s, known, .inl rfl, rfl⟩
    | object members =>
      obtain ⟨_, -, read⟩ := bind_eq_ok.mp read
      cases members with
      | nil => cases read
      | cons m rest =>
        obtain ⟨key, w⟩ := m
        cases rest with
        | cons => cases read
        | nil =>
          obtain ⟨_, isName, read⟩ := bind_eq_ok.mp read
          obtain ⟨known, rfl⟩ := chooseName_eq_ok.mp isName
          obtain ⟨_, isUnit, ⟨⟩⟩ := bind_eq_ok.mp read
          obtain rfl : w = .null := by
            cases w with
            | null => rfl
            | _ => cases readUnit_eq_ok.mp isUnit
          exact ⟨key, known, .inr rfl, rfl⟩
    | _ => cases read
  · rintro ⟨s, known, rfl | rfl, rfl⟩
    · exact chooseName_eq_ok.mpr ⟨known, rfl⟩
    · exact bind_eq_ok.mpr ⟨_, Value.descend_value room,
        bind_eq_ok.mpr ⟨_, chooseName_eq_ok.mpr ⟨known, rfl⟩, rfl⟩⟩

/-- What is checked is read and then accepted. -/
lemma readChecked_eq_ok {raw : Reader} {check : Datum → Except String Datum} {t : Tree} :
    readChecked raw check room t = .ok d ↔ ∃ d', raw room t = .ok d' ∧ check d' = .ok d := by
  rw [readChecked, bind_eq_ok]
  refine exists_congr fun d' => and_congr_right fun _ => ?_
  cases check d' with
  | error => simp
  | ok => simp

/-! ### The parts of a record -/

/-- What a list has for each of some keys, one after the other; nothing if it has more. -/
def inOrder : List String → List Value → Option (List (Option Value))
  | [], [] => some []
  | [], _ :: _ => none
  | _ :: keys, items => (inOrder keys items.tail).map (items.head? :: ·)

/-- What a value has for each of the keys of a record: the members of an object, or the elements of
an array in the order of the keys. -/
def Value.parts? (keys : List String) : Value → Option (List (Option Value))
  | .object members => some (keys.map (Members.get? members))
  | .array items => inOrder keys items
  | _ => none

lemma mem_of_inOrder {keys : List String} {items : List Value} {founds : List (Option Value)}
    (found : inOrder keys items = some founds) (mem : some v ∈ founds) : v ∈ items := by
  induction keys generalizing items founds with
  | nil =>
    cases items with
    | nil =>
      cases found
      cases mem
    | cons => cases found
  | cons key keys ih =>
    obtain ⟨rest, isRest, rfl⟩ := Option.map_eq_some_iff.mp found
    rcases List.mem_cons.mp mem with first | later
    · exact List.mem_of_mem_head? first.symm
    · exact List.mem_of_mem_tail (ih isRest later)

/-- What is found in a proper value is proper. -/
lemma Value.Proper.of_parts {keys : List String} {founds : List (Option Value)} {whole : Value}
    (proper : whole.Proper) (found : whole.parts? keys = some founds) (mem : some v ∈ founds) :
    v.Proper := by
  cases proper with
  | null | bool | number | string => cases found
  | array proper => exact proper v (mem_of_inOrder found mem)
  | object _ proper =>
    obtain rfl := Option.some.inj found
    obtain ⟨key, -, isThere⟩ := List.mem_map.mp mem
    exact proper (key, v) (Members.mem_of_get? isThere)

/-- Whether a part of a record is read as some data where something was found for it or nothing. -/
def FieldReader.Gives (field : FieldReader) (room : Nat) (found : Option Value) (d : Datum) : Prop :=
  match found with
  | some v => field.read room v.toTree = .ok d
  | none => field.whenAbsent = .ok d

/-- A part that must be given is read from what was found. -/
lemma FieldReader.gives_required {key : String} {read : Reader} {found : Option Value} :
    (FieldReader.mk key read .required).Gives room found d ↔
      ∃ v, found = some v ∧ read room v.toTree = .ok d := by
  cases found with
  | none => simp [Gives, whenAbsent]
  | some v => simp [Gives]

/-- Whether the parts of a record are read as some data where something was found for each of them
or nothing. -/
inductive Reads (room : Nat) : List FieldReader → List (Option Value) → List Datum → Prop
  | nil : Reads room [] [] []
  | cons {field : FieldReader} {found : Option Value} {d : Datum} {fields : List FieldReader}
      {founds : List (Option Value)} {ds : List Datum} (gives : field.Gives room found d)
      (rest : Reads room fields founds ds) : Reads room (field :: fields) (found :: founds) (d :: ds)

section

variable {members : Members Value} {parts : List Datum}

/-- Data for parts with different keys is data for keys. -/
lemma forall₂_iff_keyed {R : FieldReader → Datum → Prop}
    (distinct : (fields.map FieldReader.key).Nodup) :
    List.Forall₂ R fields parts ↔ ∃ data : String → Datum,
      parts = fields.map (fun f => data f.key) ∧ ∀ f ∈ fields, R f (data f.key) := by
  constructor
  · intro related
    induction related with
    | nil => exact ⟨fun _ => .none, rfl, fun _ mem => by cases mem⟩
    | @cons field d fields parts first _ ih =>
      obtain ⟨other, distinct⟩ := List.nodup_cons.mp distinct
      obtain ⟨data, rfl, rest⟩ := ih distinct
      have later {f : FieldReader} (mem : f ∈ fields) : f.key ≠ field.key := fun same =>
        other (same ▸ List.mem_map_of_mem mem)
      refine ⟨fun key => if key = field.key then d else data key, ?_, fun f mem => ?_⟩
      · dsimp only
        rw [List.map_cons, if_pos rfl]
        exact congrArg (d :: ·) (List.map_congr_left fun f mem => (if_neg (later mem)).symm)
      · dsimp only
        rcases List.mem_cons.mp mem with rfl | mem
        · rw [if_pos rfl]
          exact first
        · rw [if_neg (later mem)]
          exact rest f mem
  · rintro ⟨data, rfl, each⟩
    exact List.forall₂_map_right_iff.mpr (List.forall₂_same.mpr each)

lemma reads_map_iff {find : FieldReader → Option Value} :
    Reads room fields (fields.map find) parts ↔
      List.Forall₂ (fun f d => f.Gives room (find f) d) fields parts := by
  induction fields generalizing parts with
  | nil =>
    constructor
    · rintro ⟨⟩
      exact .nil
    · rintro ⟨⟩
      exact .nil
  | cons field fields ih =>
    constructor
    · rintro ⟨⟩
      next gives rest => exact .cons gives (ih.mp rest)
    · rintro ⟨⟩
      next gives rest => exact .cons gives (ih.mpr rest)

/-! ### Objects -/

/-- What stands in the slots or in place of empty ones makes the parts of a record. -/
lemma closeSlots_eq_ok {slots : FieldReader → Option Datum} :
    closeSlots fields (fields.map slots) = .ok parts ↔ List.Forall₂ (fun f d =>
      slots f = some d ∨ slots f = none ∧ f.whenAbsent = .ok d) fields parts := by
  induction fields generalizing parts with
  | nil => simp [closeSlots, eq_comm]
  | cons field fields ih =>
    let first : Except Fault Datum := (slots field).elim field.whenAbsent .ok
    have first_eq_ok {d : Datum} : first = .ok d ↔
        slots field = some d ∨ slots field = none ∧ field.whenAbsent = .ok d := by
      unfold first
      cases slots field with
      | none => simp
      | some d => simp
    have steps : closeSlots (field :: fields) (slots field :: fields.map slots)
        = first >>= fun d => closeSlots fields (fields.map slots) >>= fun ds => .ok (d :: ds) := by
      unfold first
      cases slots field <;> rfl
    rw [List.map_cons, steps, bind_eq_ok]
    constructor
    · rintro ⟨d, isD, rest⟩
      obtain ⟨ds, isDs, same⟩ := bind_eq_ok.mp rest
      cases same
      exact .cons (first_eq_ok.mp isD) (ih.mp isDs)
    · rintro ⟨⟩
      next d ds isD isDs =>
        exact ⟨d, first_eq_ok.mpr isD, bind_eq_ok.mpr ⟨ds, ih.mpr isDs, rfl⟩⟩

namespace FieldReader

variable {field : FieldReader} {found : Option Value} {slot : Option Datum}

/-- A part is what has been taken into its slot, or stands in place of an empty one. -/
lemma Takes.gives (takes : field.Takes room (found.map Value.toTree) none slot)
    (closes : slot = some d ∨ slot = none ∧ field.whenAbsent = .ok d) :
    field.Gives room found d := by
  cases found with
  | none =>
    obtain rfl : slot = none := takes
    exact (closes.resolve_left nofun).2
  | some v =>
    obtain ⟨d', read, rfl⟩ := takes
    obtain rfl : d' = d := Option.some.inj (closes.resolve_right nofun)
    exact read

lemma Gives.takes (gives : field.Gives room found d) :
    field.Takes room (found.map Value.toTree) none (found.map fun _ => d) := by
  cases found with
  | none => rfl
  | some v => exact ⟨d, gives, rfl⟩

lemma Gives.closes (gives : field.Gives room found d) :
    (found.map fun _ => d) = some d ∨ (found.map fun _ => d) = none ∧ field.whenAbsent = .ok d := by
  cases found with
  | none => exact .inr ⟨rfl, gives⟩
  | some v => exact .inl rfl

end FieldReader

/-- A record is read from the members of an object, whatever their order and whatever else there
is. -/
lemma readRecord_object (distinct : (fields.map FieldReader.key).Nodup)
    (sorted : Members.Sorted members) :
    readRecord .value title fields room (Value.object members).toTree = .ok d ↔
      ∃ parts, Reads (room - 1) fields (fields.map fun f => Members.get? members f.key) parts ∧
        d = .record parts := by
  rw [Value.toTree_object, readRecord_members]
  constructor
  · rintro ⟨_, _, parts, ⟨⟩, fills, closes, rfl⟩
    obtain ⟨slots, rfl, takes⟩ := fillSlots_takes distinct fills
    obtain ⟨data, rfl, given⟩ := (forall₂_iff_keyed distinct).mp (closeSlots_eq_ok.mp closes)
    refine ⟨_, reads_map_iff.mpr ((forall₂_iff_keyed distinct).mpr ⟨data, rfl, ?_⟩), rfl⟩
    intro f mem
    have takes := takes f mem
    rw [Value.ofList_trees sorted, Value.get?_trees] at takes
    exact takes.gives (given f mem)
  · rintro ⟨parts, reads, rfl⟩
    obtain ⟨data, rfl, gives⟩ := (forall₂_iff_keyed distinct).mp (reads_map_iff.mp reads)
    let slots (key : String) : Option Datum := (Members.get? members key).map fun _ => data key
    have alone : (Members.keys (Value.trees members)).Nodup :=
      Value.keys_trees _ ▸ Members.nodup_of_sorted sorted
    have fills : fillSlots .value fields (room - 1) (Tree.named (Value.trees members))
        (fields.map fun _ => none) = .ok (fields.map fun f => slots f.key) :=
      fillSlots_of_takes distinct alone Value.intact_trees fun f mem =>
        Value.get?_trees members f.key ▸ (gives f mem).takes
    have closes := closeSlots_eq_ok.mpr
      ((forall₂_iff_keyed distinct).mpr ⟨data, rfl, fun f mem => (gives f mem).closes⟩)
    exact ⟨_, _, _, Value.descend_value room, fills, closes, rfl⟩

end

/-! ### Arrays -/

/-- The first part of an array is read, and then the parts behind it. -/
lemma readParts_cons {want : String} {position : Nat} {field : FieldReader} {items : List Value}
    {parts : List Datum} :
    readParts want .closed room position (field :: fields) (Value.listToTrees items)
        = .ok (parts, []) ↔
      ∃ d ds, field.Gives room items.head? d ∧
        readParts want .closed room (position + 1) fields (Value.listToTrees items.tail)
          = .ok (ds, []) ∧ parts = d :: ds := by
  let missing : Except Fault Datum := field.whenAbsent.mapError fun _ => .wrongLength position want
  let first : Except Fault Datum := items.head?.elim missing fun v => field.read room v.toTree
  let others := readParts want .closed room (position + 1) fields (Value.listToTrees items.tail)
  have steps : readParts want .closed room position (field :: fields) (Value.listToTrees items)
      = first >>= fun d => others >>= fun p => .ok (d :: p.1, p.2) := by
    unfold first missing others FieldReader.whenAbsent
    cases items with
    | nil =>
      rw [Value.listToTrees, readParts]
      cases field.absence <;> rfl
    | cons => rfl
  have first_eq_ok {d : Datum} : first = .ok d ↔ field.Gives room items.head? d := by
    cases items with
    | nil =>
      change missing = .ok d ↔ field.whenAbsent = .ok d
      unfold missing
      cases field.whenAbsent <;> simp [Except.mapError]
    | cons => rfl
  rw [steps, bind_eq_ok]
  constructor
  · rintro ⟨d, isFirst, more⟩
    obtain ⟨⟨ds, surplus⟩, read, ⟨⟩⟩ := bind_eq_ok.mp more
    exact ⟨d, ds, first_eq_ok.mp isFirst, read, rfl⟩
  · rintro ⟨d, ds, gives, read, rfl⟩
    exact ⟨d, first_eq_ok.mpr gives, bind_eq_ok.mpr ⟨(ds, []), read, rfl⟩⟩

/-- The elements of an array are the parts of a record in order. -/
lemma readParts_eq_ok {want : String} {position : Nat} {items : List Value} {parts : List Datum} :
    readParts want .closed room position fields (Value.listToTrees items) = .ok (parts, []) ↔
      ∃ founds, inOrder (fields.map FieldReader.key) items = some founds ∧
        Reads room fields founds parts := by
  induction fields generalizing position items parts with
  | nil =>
    cases items with
    | nil =>
      constructor
      · rintro ⟨⟩
        exact ⟨[], rfl, .nil⟩
      · rintro ⟨_, ⟨⟩, ⟨⟩⟩
        rfl
    | cons v rest =>
      constructor
      · rintro ⟨⟩
      · rintro ⟨_, ⟨⟩, _⟩
  | cons field fields ih =>
    rw [readParts_cons, List.map_cons, inOrder]
    constructor
    · rintro ⟨d, ds, gives, read, rfl⟩
      obtain ⟨founds, found, reads⟩ := ih.mp read
      exact ⟨items.head? :: founds, by rw [found, Option.map_some], .cons gives reads⟩
    · rintro ⟨_, all, reads⟩
      obtain ⟨founds, found, rfl⟩ := Option.map_eq_some_iff.mp all
      cases reads with
      | cons gives reads => exact ⟨_, _, gives, ih.mpr ⟨founds, found, reads⟩, rfl⟩

/-- A record is read from an array that has no more elements than it has parts. -/
lemma readRecord_array {items : List Value} :
    readRecord .value title fields room (Value.array items).toTree = .ok d ↔
      ∃ founds parts, inOrder (fields.map FieldReader.key) items = some founds ∧
        Reads (room - 1) fields founds parts ∧ d = .record parts := by
  rw [Value.toTree, readRecord, Value.descend_value]
  constructor
  · intro read
    obtain ⟨_, ⟨⟩, read⟩ := bind_eq_ok.mp read
    obtain ⟨⟨parts, surplus⟩, isParts, read⟩ := bind_eq_ok.mp read
    cases surplus with
    | cons => cases read
    | nil =>
      cases read
      obtain ⟨founds, found, reads⟩ := readParts_eq_ok.mp isParts
      exact ⟨founds, parts, found, reads, rfl⟩
  · rintro ⟨founds, parts, found, reads, rfl⟩
    exact bind_eq_ok.mpr ⟨_, rfl, bind_eq_ok.mpr
      ⟨_, readParts_eq_ok.mpr ⟨founds, found, reads⟩, rfl⟩⟩

/-- A record is read part by part, from an object or from an array. -/
theorem readRecord_eq_ok (distinct : (fields.map FieldReader.key).Nodup) (proper : v.Proper) :
    readRecord .value title fields room v.toTree = .ok d ↔
      ∃ founds parts, v.parts? (fields.map FieldReader.key) = some founds ∧
        Reads (room - 1) fields founds parts ∧ d = .record parts := by
  cases proper with
  | null | bool | string | number =>
    constructor
    · rintro ⟨⟩
    · rintro ⟨_, _, ⟨⟩, _⟩
  | object sorted =>
    rw [readRecord_object distinct sorted]
    simp only [Value.parts?, Option.some.injEq, List.map_map, Function.comp_def, exists_eq_left',
      exists_and_left]
  | array => exact readRecord_array

end MetricWatch.Json
