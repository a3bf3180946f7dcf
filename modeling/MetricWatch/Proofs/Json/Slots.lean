import MetricWatch.Json.Reading
import MetricWatch.Proofs.Maps
import Mathlib.Data.List.Nodup

/-!
# Slots of records

A record is read from the members of an object through slots, one for each of its parts. Whoever
fills the slots has read what the map of the members has for each part, on every route; and members
whose keys differ fill the slots whenever what they have for the parts can be read. The main
statements are `fillSlots_takes` and `fillSlots_of_takes`.
-/

namespace MetricWatch.Json

variable {route : Route} {room : Nat} {title : String} {d : Datum} {fields : List FieldReader}
  {members : Members Tree}

lemma bind_eq_ok {α β : Type} {x : Except Fault α} {f : α → Except Fault β} {b : β} :
    x >>= f = .ok b ↔ ∃ a, x = .ok a ∧ f a = .ok b := by
  cases x with
  | error => exact ⟨nofun, fun ⟨_, same, _⟩ => nomatch same⟩
  | ok a => simp only [bind, Except.bind, Except.ok.injEq, exists_eq_left']

/-! ### Members under texts -/

/-- Members of an object whose keys are texts. -/
def Tree.named (members : Members Tree) : List (Key × Tree) := members.map fun m => (.text m.1, m.2)

lemma Tree.named_inj {members members' : Members Tree} :
    named members = named members' ↔ members = members' := by
  have injective : Function.Injective fun m : String × Tree => (Key.text m.1, m.2) := by
    rintro ⟨key, t⟩ ⟨key', t'⟩ same
    cases same
    rfl
  exact injective.list_map.eq_iff

/-! ### Slots -/

/-- The slot at the position of a part is the one that belongs to its key. -/
lemma set_keyed (distinct : (fields.map FieldReader.key).Nodup) {i : Nat} {field : FieldReader}
    (isThere : fields[i]? = some field) (slots : String → Option Datum) (slot : Option Datum) :
    (fields.map fun f => slots f.key).set i slot
      = fields.map fun f => if f.key = field.key then slot else slots f.key := by
  induction fields generalizing i with
  | nil => rfl
  | cons f rest ih =>
    obtain ⟨other, distinct⟩ := List.nodup_cons.mp distinct
    rw [List.map_cons, List.map_cons]
    cases i with
    | zero =>
      obtain rfl : f = field := Option.some.inj isThere
      rw [List.set_cons_zero, if_pos rfl]
      refine congrArg (slot :: ·) (List.map_congr_left fun f' mem => (if_neg fun same => ?_).symm)
      exact other (same ▸ List.mem_map_of_mem mem)
    | succ i =>
      have later : field ∈ rest := List.mem_of_getElem? isThere
      rw [List.set_cons_succ, ih distinct isThere, if_neg]
      exact fun same => other (same ▸ List.mem_map_of_mem later)

section

variable {fields : List FieldReader} {slots slots' : String → Option Datum}

/-- What becomes of the slot of a part where a tree is found for it or nothing. -/
def FieldReader.Takes (field : FieldReader) (room : Nat) (found : Option Tree)
    (before after : Option Datum) : Prop :=
  match found with
  | some t => ∃ d, field.read room t = .ok d ∧ after = some d
  | none => after = before

/-- A member for no part is passed over, if it has no break. -/
lemma fillSlots_skip {key : String} (unknown : ∀ f ∈ fields, f.key ≠ key) (t : Tree)
    (rest : List (Key × Tree)) (filled : List (Option Datum)) :
    fillSlots route fields room ((.text key, t) :: rest) filled
      = if t.intact then fillSlots route fields room rest filled else .error .malformed := by
  have position : fields.findIdx? (fun f => f.key == key) = none :=
    List.findIdx?_eq_none_iff.mpr fun f mem => beq_false_of_ne (unknown f mem)
  rw [fillSlots, position]

/-- A member for a part is read into its slot, which must be free in a text. -/
lemma fillSlots_take (distinct : (fields.map FieldReader.key).Nodup) {field : FieldReader}
    (mem : field ∈ fields) (t : Tree) (rest : List (Key × Tree)) (slots : String → Option Datum) :
    fillSlots route fields room ((.text field.key, t) :: rest) (fields.map fun f => slots f.key)
      = if route = .text ∧ (slots field.key).isSome then .error (.repeated field.key)
        else field.read room t >>= fun d => fillSlots route fields room rest
          (fields.map fun f => if f.key = field.key then some d else slots f.key) := by
  obtain ⟨i, position⟩ : ∃ i, fields.findIdx? (fun f => f.key == field.key) = some i :=
    Option.isSome_iff_exists.mp <| List.findIdx?_isSome.trans <|
      List.any_eq_true.mpr ⟨field, mem, beq_self_eq_true _⟩
  obtain ⟨inside, isKey, -⟩ := List.findIdx?_eq_some_iff_getElem.mp position
  have isThere : fields[i]? = some field := by
    rw [List.getElem?_eq_getElem inside, List.inj_on_of_nodup_map distinct
      (List.getElem_mem inside) mem (beq_iff_eq.mp isKey)]
  rw [fillSlots, position]
  simp only [isThere, List.getElem?_map, Option.map_some, set_keyed distinct isThere]

/-- Filled slots hold what the map of the members has for each part. -/
lemma fillSlots_takes (distinct : (fields.map FieldReader.key).Nodup)
    {filled : List (Option Datum)}
    (fills : fillSlots route fields room (Tree.named members) (fields.map fun _ => none)
      = .ok filled) :
    ∃ slots : String → Option Datum, filled = fields.map (fun f => slots f.key) ∧
      ∀ f ∈ fields,
        f.Takes room (Members.get? (Members.ofList members) f.key) none (slots f.key) := by
  -- The map is built member by member as the slots are filled.
  suffices all : ∀ (held : Members Tree) (slots : String → Option Datum),
      (∀ f ∈ fields, f.Takes room (held.get? f.key) none (slots f.key)) →
      fillSlots route fields room (Tree.named members) (fields.map fun f => slots f.key)
        = .ok filled →
      ∃ slots' : String → Option Datum, filled = fields.map (fun f => slots' f.key) ∧
        ∀ f ∈ fields, f.Takes room
          (Members.get? (members.foldl (fun m e => m.put e.1 e.2) held) f.key) none
          (slots' f.key) from
    all [] (fun _ => none) (fun _ _ => rfl) fills
  clear fills
  induction members with
  | nil =>
    intro held slots takes fills
    cases fills
    exact ⟨slots, rfl, takes⟩
  | cons m rest ih =>
    obtain ⟨key, t⟩ := m
    intro held slots takes fills
    by_cases known : ∃ f ∈ fields, f.key = key
    · obtain ⟨field, mem, rfl⟩ := known
      rw [Tree.named, List.map_cons, fillSlots_take distinct mem] at fills
      split at fills
      · cases fills
      · obtain ⟨d, read, fills⟩ := bind_eq_ok.mp fills
        refine ih _ (fun key => if key = field.key then some d else slots key)
          (fun f mem' => ?_) fills
        rw [Members.get?_put]
        by_cases own : f.key = field.key
        · obtain rfl : f = field := List.inj_on_of_nodup_map distinct mem' mem own
          rw [if_pos rfl, if_pos rfl]
          exact ⟨d, read, rfl⟩
        · rw [if_neg (Ne.symm own), if_neg own]
          exact takes f mem'
    · have unknown : ∀ f ∈ fields, f.key ≠ key := fun f mem same => known ⟨f, mem, same⟩
      rw [Tree.named, List.map_cons, fillSlots_skip unknown] at fills
      split at fills
      · refine ih _ slots (fun f mem => ?_) fills
        rw [Members.get?_put, if_neg (unknown f mem).symm]
        exact takes f mem
      · cases fills

/-- Members whose keys differ fill the slots of the parts that they are for. -/
lemma fillSlots_of_takes (distinct : (fields.map FieldReader.key).Nodup)
    (alone : (Members.keys members).Nodup) (intact : ∀ m ∈ members, m.2.intact = true)
    (takes : ∀ f ∈ fields, f.Takes room (Members.get? members f.key) none (slots f.key)) :
    fillSlots route fields room (Tree.named members) (fields.map fun _ => none)
      = .ok (fields.map fun f => slots f.key) := by
  suffices all : ∀ before : String → Option Datum, (∀ m ∈ members, before m.1 = none) →
      (∀ f ∈ fields, f.Takes room (Members.get? members f.key) (before f.key) (slots f.key)) →
      fillSlots route fields room (Tree.named members) (fields.map fun f => before f.key)
        = .ok (fields.map fun f => slots f.key) from
    all (fun _ => none) (fun _ _ => rfl) takes
  clear takes
  induction members with
  | nil =>
    intro before _ takes
    exact congrArg Except.ok (List.map_congr_left fun f mem => (takes f mem).symm)
  | cons m rest ih =>
    obtain ⟨key, t⟩ := m
    obtain ⟨once, others⟩ := List.nodup_cons.mp alone
    intro before free takes
    have intact' : ∀ m ∈ rest, m.2.intact = true :=
      fun m mem => intact m (List.mem_cons_of_mem _ mem)
    have later {m : String × Tree} (mem : m ∈ rest) : m.1 ≠ key := by
      rintro rfl
      exact once (List.mem_map.mpr ⟨m, mem, rfl⟩)
    by_cases known : ∃ f ∈ fields, f.key = key
    · obtain ⟨field, mem, rfl⟩ := known
      have own := takes field mem
      rw [Members.get?_cons, if_pos rfl] at own
      obtain ⟨d, read, isSlot⟩ := own
      have isFree : before field.key = none := free _ List.mem_cons_self
      rw [Tree.named, List.map_cons, fillSlots_take distinct mem, if_neg (by simp [isFree]), read]
      refine ih others intact' (fun key => if key = field.key then some d else before key)
        (fun m mem => ?_) fun f mem' => ?_
      · rw [if_neg (later mem)]
        exact free m (List.mem_cons_of_mem _ mem)
      · have takes' := takes f mem'
        rw [Members.get?_cons] at takes'
        by_cases own : f.key = field.key
        · obtain rfl : f = field := List.inj_on_of_nodup_map distinct mem' mem own
          have gone : Members.get? rest f.key = none := by
            cases found : Members.get? rest f.key with
            | none => rfl
            | some t => exact absurd (List.mem_map_of_mem (Members.mem_of_get? found)) once
          rw [gone, if_pos rfl]
          exact isSlot
        · rw [if_neg (Ne.symm own)] at takes'
          rw [if_neg own]
          exact takes'
    · have unknown : ∀ f ∈ fields, f.key ≠ key := fun f mem same => known ⟨f, mem, same⟩
      rw [Tree.named, List.map_cons, fillSlots_skip unknown, if_pos (intact _ List.mem_cons_self)]
      refine ih others intact' before (fun m mem => free m (List.mem_cons_of_mem _ mem))
        fun f mem => ?_
      have takes' := takes f mem
      rwa [Members.get?_cons, if_neg (unknown f mem).symm] at takes'

end

/-- Slots are filled from members under texts only. -/
lemma fillSlots_named {fields : List FieldReader} {ms : List (Key × Tree)}
    {slots filled : List (Option Datum)}
    (fills : fillSlots route fields room ms slots = .ok filled) :
    ∃ members, ms = Tree.named members := by
  induction ms generalizing slots with
  | nil => exact ⟨[], rfl⟩
  | cons m ms ih =>
    obtain ⟨key, t⟩ := m
    cases key with
    | malformed | misplaced => cases fills
    | text key =>
      obtain ⟨slots', rest⟩ : ∃ slots', fillSlots route fields room ms slots' = .ok filled := by
        rw [fillSlots] at fills
        split at fills
        · split at fills
          · exact ⟨slots, fills⟩
          · cases fills
        · split at fills
          · split at fills
            · cases fills
            · obtain ⟨_, -, fills⟩ := bind_eq_ok.mp fills
              exact ⟨_, fills⟩
          · cases fills
      obtain ⟨members, rfl⟩ := ih rest
      exact ⟨(key, t) :: members, rfl⟩

/-! ### Records -/

/-- What is read from an object only is read like any record, but not from an array. -/
lemma readObject_eq_ok {route : Route} {title : String} {fields : List FieldReader} {t : Tree} :
    readObject route title fields room t = .ok d ↔
      readRecord route title fields room t = .ok d ∧ ∀ items ending, t ≠ .array items ending := by
  cases t with
  | array items ending =>
    constructor
    · intro read
      cases read
    · rintro ⟨-, noArray⟩
      exact absurd rfl (noArray items ending)
  | _ => exact ⟨fun read => ⟨read, fun _ _ same => by cases same⟩, fun read => read.1⟩

/-- A record is read from the members of an object through its slots. -/
lemma readRecord_members {route : Route} {title : String} {fields : List FieldReader}
    {members : Members Tree} :
    readRecord route title fields room (.object (Tree.named members) .closed) = .ok d ↔
      ∃ inside filled ds, route.descend room = .ok inside ∧
        fillSlots route fields inside (Tree.named members) (fields.map fun _ => none) = .ok filled ∧
        closeSlots fields filled = .ok ds ∧ d = .record ds := by
  constructor
  · intro read
    obtain ⟨inside, descends, read⟩ := bind_eq_ok.mp read
    obtain ⟨filled, fills, read⟩ := bind_eq_ok.mp read
    obtain ⟨_, -, read⟩ := bind_eq_ok.mp read
    obtain ⟨ds, closes, ⟨⟩⟩ := bind_eq_ok.mp read
    exact ⟨inside, filled, ds, descends, fills, closes, rfl⟩
  · rintro ⟨inside, filled, ds, descends, fills, closes, rfl⟩
    exact bind_eq_ok.mpr ⟨inside, descends, bind_eq_ok.mpr ⟨filled, fills,
      bind_eq_ok.mpr ⟨_, rfl, bind_eq_ok.mpr ⟨ds, closes, rfl⟩⟩⟩⟩

end MetricWatch.Json
