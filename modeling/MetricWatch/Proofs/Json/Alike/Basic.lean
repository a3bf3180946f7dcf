import MetricWatch.Proofs.Json.Objects

/-!
# Readers of texts and of values

A text may be read directly, or into a value that is read then. `Reader.Alike` says of two readers
that it makes no difference which is used: what the one reads in a text the other reads in its
value, and what is read in the value is read in the text, unless the text repeats a key in an
object. It holds for scalars and names, and for lists, maps and alternatives of what it holds for.
-/

namespace MetricWatch.Json

variable {room room' : Nat} {t : Tree} {v : Value} {d : Datum}

/-! ### Texts that repeat no key -/

mutual

/-- Whether no object of a tree repeats a key. -/
def Tree.distinct : Tree → Bool
  | .array items _ => Tree.allDistinct items
  | .object members _ => decide (members.map Prod.fst).Nodup && Tree.membersDistinct members
  | _ => true

/-- Whether no object in a list of trees repeats a key. -/
def Tree.allDistinct : List Tree → Bool
  | [] => true
  | t :: rest => t.distinct && Tree.allDistinct rest

/-- Whether no object in the members of another repeats a key. -/
def Tree.membersDistinct : List (Key × Tree) → Bool
  | [] => true
  | (_, t) :: rest => t.distinct && Tree.membersDistinct rest

end

lemma Tree.distinct_array {items : List Tree} {ending : Ending} :
    (Tree.array items ending).distinct = true ↔ ∀ t ∈ items, t.distinct = true := by
  rw [Tree.distinct]
  induction items with
  | nil => exact iff_of_true rfl nofun
  | cons t rest ih => rw [allDistinct, Bool.and_eq_true, ih, List.forall_mem_cons]

lemma Tree.distinct_object {members : Members Tree} {ending : Ending} :
    (Tree.object (named members) ending).distinct = true ↔
      (Members.keys members).Nodup ∧ ∀ m ∈ members, m.2.distinct = true := by
  have each : membersDistinct (named members) = true ↔ ∀ m ∈ members, m.2.distinct = true := by
    induction members with
    | nil => exact iff_of_true rfl nofun
    | cons m rest ih =>
      rw [named, List.map_cons, membersDistinct, Bool.and_eq_true, List.forall_mem_cons]
      exact and_congr_right fun _ => ih
  have keys : (named members).map Prod.fst = (Members.keys members).map Key.text := by
    simp [named, Members.keys, List.map_map, Function.comp_def]
  have injective : Function.Injective Key.text := fun _ _ => Key.text.inj
  rw [Tree.distinct, Bool.and_eq_true, decide_eq_true_eq, keys, List.nodup_map_iff injective, each]

/-! ### Readers -/

/-- Whether what stands in a text is the same to a reader of texts as its value is to a reader of
values. -/
structure Reader.Alike (onText onValue : Reader) : Prop where
  forth {room room' : Nat} {t : Tree} {v : Value} {d : Datum}
    (isValue : t.toValue .text room = .ok v) (read : onText room t = .ok d) :
    onValue room' v.toTree = .ok d
  back {room room' : Nat} {t : Tree} {v : Value} {d : Datum}
    (isValue : t.toValue .text room = .ok v) (distinct : t.distinct = true)
    (read : onValue room' v.toTree = .ok d) : onText room t = .ok d

/-- A tree that has a value, beside this value. -/
inductive Tree.Says (room : Nat) : Tree → Value → Prop
  | null : Says room .null .null
  | bool (b : Bool) : Says room (.bool b) (.bool b)
  | number (n : Number) : Says room (.number (some n)) (.number n)
  | string (s : String) : Says room (.string (some s)) (.string s)
  | array {ts : List Tree} {vs : List Value} {inside : Nat}
      (descends : Route.descend .text room = .ok inside)
      (each : List.Forall₂ (fun t v => t.toValue .text inside = .ok v) ts vs) :
      Says room (.array ts .closed) (.array vs)
  | object {members : Members Tree} {entries : Members Value} {inside : Nat}
      (descends : Route.descend .text room = .ok inside)
      (along : Members.Alongside (fun t v => t.toValue .text inside = .ok v) members entries) :
      Says room (.object (Tree.named members) .closed) (.object (Members.ofList entries))

lemma Tree.says_of_toValue (isValue : t.toValue .text room = .ok v) : t.Says room v := by
  match t, isValue with
  | .null, rfl => exact .null
  | .bool b, rfl => exact .bool b
  | .number (some n), rfl => exact .number n
  | .string (some s), rfl => exact .string s
  | .array _ _, isValue =>
    obtain ⟨rfl, _, _, descends, each, rfl⟩ := toValue_array.mp isValue
    exact .array descends each
  | .object _ _, isValue =>
    obtain ⟨rfl, _, _, _, descends, rfl, along, rfl⟩ := toValue_object.mp isValue
    exact .object descends along

/-! ### Scalars -/

/-- Whether a reader reads neither arrays nor objects, and anything else however deep it stands. -/
structure Reader.Scalar (read : Reader) : Prop where
  flat (room room' : Nat) (t : Tree) : read room t = read room' t
  array (room : Nat) (ts : List Tree) (ending : Ending) (d : Datum) :
    read room (.array ts ending) ≠ .ok d
  object (room : Nat) (ms : List (Key × Tree)) (ending : Ending) (d : Datum) :
    read room (.object ms ending) ≠ .ok d

namespace Reader.Scalar

lemma bool : Scalar readBool := ⟨fun _ _ t => by cases t <;> rfl, nofun, nofun⟩

lemma text : Scalar readText where
  flat _ _ t := by
    cases t with
    | string s => cases s <;> rfl
    | _ => rfl
  array := nofun
  object := nofun

lemma float : Scalar readFloat where
  flat _ _ t := by
    cases t with
    | number n => cases n <;> rfl
    | _ => rfl
  array := nofun
  object := nofun

lemma int64 : Scalar readInt64 where
  flat _ _ t := by
    cases t with
    | number n => rcases n with _ | _ | _ | _ <;> rfl
    | _ => rfl
  array := nofun
  object := nofun

lemma nat64 (want : String) : Scalar (readNat64 want) where
  flat _ _ t := by
    cases t with
    | number n => rcases n with _ | _ | _ | _ <;> rfl
    | _ => rfl
  array := nofun
  object := nofun

variable {read : Reader} (scalar : Scalar read)

include scalar

/-- A scalar is read from a text just when it is read from its value. -/
lemma iff (isValue : t.toValue .text room = .ok v) :
    read room t = .ok d ↔ read room' v.toTree = .ok d := by
  cases Tree.says_of_toValue isValue with
  | null | bool | number | string => rw [scalar.flat room room', Value.toTree]
  | array => exact iff_of_false (scalar.array _ _ _ _) (scalar.array _ _ _ _)
  | object => exact iff_of_false (scalar.object _ _ _ _) (scalar.object _ _ _ _)

lemma alike : Alike read read :=
  ⟨fun isValue => (scalar.iff isValue).mp, fun isValue _ => (scalar.iff isValue).mpr⟩

end Reader.Scalar

/-! ### Names -/

lemma Tree.toValue_eq_null (isNull : t.toValue .text room = .ok .null) : t = .null := by
  cases says_of_toValue isNull
  rfl

/-- A text names something in an object with nothing but the name over null. -/
lemma readName_object {names : List String} {members : Members Tree} :
    readName .text names room (.object (Tree.named members) .closed) = .ok d ↔
      (∃ inside, Route.descend .text room = .ok inside) ∧
        ∃ s ∈ names, members = [(s, .null)] ∧ d = .text s := by
  constructor
  · intro read
    obtain ⟨inside, descends, read⟩ := bind_eq_ok.mp read
    refine ⟨⟨inside, descends⟩, ?_⟩
    match members, read with
    | [(s, t)], read =>
      obtain ⟨_, isName, read⟩ := bind_eq_ok.mp read
      obtain ⟨known, rfl⟩ := chooseName_eq_ok.mp isName
      obtain ⟨_, isUnit, ⟨⟩⟩ := bind_eq_ok.mp read
      obtain rfl := readUnit_eq_ok.mp isUnit
      exact ⟨s, known, rfl, rfl⟩
    | (s, t) :: _ :: _, read =>
      obtain ⟨_, isName, read⟩ := bind_eq_ok.mp read
      obtain ⟨_, isUnit, ⟨⟩⟩ := bind_eq_ok.mp read
  · rintro ⟨⟨inside, descends⟩, s, known, rfl, rfl⟩
    exact bind_eq_ok.mpr ⟨inside, descends,
      bind_eq_ok.mpr ⟨_, chooseName_eq_ok.mpr ⟨known, rfl⟩, rfl⟩⟩

/-- Side by side with one entry over null there is one entry over null. -/
lemma alongside_null {inside : Nat} {s : String} {members : Members Tree}
    {entries : Members Value}
    (along : Members.Alongside (fun t v => t.toValue .text inside = .ok v) members entries) :
    members = [(s, .null)] ↔ entries = [(s, .null)] := by
  constructor
  · rintro rfl
    cases along with
    | @cons _ n _ _ first rest =>
      cases rest
      obtain ⟨key, v⟩ := n
      obtain ⟨rfl, isNull⟩ := first
      cases isNull
      rfl
  · rintro rfl
    cases along with
    | cons first rest =>
      cases rest
      exact congrArg (fun m => [m]) (Prod.ext first.1 (Tree.toValue_eq_null first.2))

lemma Reader.Alike.name (names : List String) :
    Reader.Alike (readName .text names) (readName .value names) where
  forth isValue read := by
    refine readName_eq_ok.mpr ?_
    cases Tree.says_of_toValue isValue with
    | null | bool | number | array => cases read
    | string s =>
      obtain ⟨known, rfl⟩ := chooseName_eq_ok.mp read
      exact ⟨s, known, .inl rfl, rfl⟩
    | object _ along =>
      obtain ⟨-, s, known, isMembers, rfl⟩ := readName_object.mp read
      rw [(alongside_null along).mp isMembers]
      exact ⟨s, known, .inr rfl, rfl⟩
  back isValue distinct read := by
    obtain ⟨s, known, isName, rfl⟩ := readName_eq_ok.mp read
    cases Tree.says_of_toValue isValue with
    | null | bool | number | array => rcases isName with isName | isName <;> cases isName
    | string s' =>
      obtain rfl : s' = s := by
        rcases isName with ⟨⟨⟩⟩ | ⟨⟨⟩⟩
        rfl
      exact chooseName_eq_ok.mpr ⟨known, rfl⟩
    | object descends along =>
      have isEntries := Value.object.inj (isName.resolve_left nofun)
      have alone := (Tree.distinct_object.mp distinct).1
      have perm := Members.perm_ofList (along.keys ▸ alone)
      rw [isEntries] at perm
      have isMembers := (alongside_null along).mpr (List.singleton_perm.mp perm).symm
      exact readName_object.mpr ⟨⟨_, descends⟩, s, known, isMembers, rfl⟩

/-! ### Lists and maps -/

lemma readList_eq_ok {route : Route} {item : Reader} : readList route item room t = .ok d ↔
    ∃ ts inside ds, t = .array ts .closed ∧ route.descend room = .ok inside ∧
      List.Forall₂ (fun t d => item inside t = .ok d) ts ds ∧ d = .list ds := by
  constructor
  · intro read
    cases t with
    | array ts ending =>
      obtain ⟨inside, descends, read⟩ := bind_eq_ok.mp read
      obtain ⟨ds, each, read⟩ := bind_eq_ok.mp read
      obtain ⟨_, closed, ⟨⟩⟩ := bind_eq_ok.mp read
      obtain rfl := check_eq_ok.mp closed
      exact ⟨ts, inside, ds, rfl, descends, readAll_eq_ok.mp each, rfl⟩
    | _ => cases read
  · rintro ⟨ts, inside, ds, rfl, descends, each, rfl⟩
    exact bind_eq_ok.mpr ⟨inside, descends, bind_eq_ok.mpr ⟨ds, readAll_eq_ok.mpr each, rfl⟩⟩

lemma readMap_eq_ok {route : Route} {item : Reader} : readMap route item room t = .ok d ↔
    ∃ members inside entries, t = .object (Tree.named members) .closed ∧
      route.descend room = .ok inside ∧
      Members.Alongside (fun t d => item inside t = .ok d) members entries ∧
      d = .map (Members.ofList entries) := by
  constructor
  · intro read
    cases t with
    | object ms ending =>
      obtain ⟨inside, descends, read⟩ := bind_eq_ok.mp read
      obtain ⟨entries, each, read⟩ := bind_eq_ok.mp read
      obtain ⟨_, closed, ⟨⟩⟩ := bind_eq_ok.mp read
      obtain rfl := check_eq_ok.mp closed
      obtain ⟨members, rfl, along⟩ := readEntries_eq_ok.mp each
      exact ⟨members, inside, entries, rfl, descends, along, rfl⟩
    | _ => cases read
  · rintro ⟨members, inside, entries, rfl, descends, along, rfl⟩
    exact bind_eq_ok.mpr ⟨inside, descends,
      bind_eq_ok.mpr ⟨entries, readEntries_eq_ok.mpr ⟨members, rfl, along⟩, rfl⟩⟩

/-- Lists that are related to a third one by one are related to each other. -/
lemma forall₂_across {α β γ : Type} {R : α → β → Prop} {S : α → γ → Prop} {T : β → γ → Prop}
    {as : List α} {bs : List β} {cs : List γ} (first : List.Forall₂ R as bs)
    (second : List.Forall₂ S as cs) (across : ∀ a b c, R a b → S a c → T b c) :
    List.Forall₂ T bs cs := by
  induction first generalizing cs with
  | nil =>
    cases second
    exact .nil
  | cons related _ ih =>
    cases second with
    | cons related' second => exact .cons (across _ _ _ related related') (ih second)

namespace Reader.Alike

variable {onText onValue : Reader} (alike : Alike onText onValue)

include alike

lemma list : Alike (readList .text onText) (readList .value onValue) where
  forth isValue read := by
    obtain ⟨ts, inside, ds, rfl, descends, each, rfl⟩ := readList_eq_ok.mp read
    cases Tree.says_of_toValue isValue with
    | @array _ vs _ descends' values =>
      obtain rfl := Except.ok.inj (descends.symm.trans descends')
      refine readList_eq_ok.mpr
        ⟨_, _, ds, Value.toTree_array vs, Value.descend_value _, List.forall₂_map_left_iff.mpr ?_,
          rfl⟩
      exact forall₂_across values each fun t v d isValue read => alike.forth isValue read
  back isValue distinct read := by
    obtain ⟨ts, inside, ds, isTree, -, each, rfl⟩ := readList_eq_ok.mp read
    cases Tree.says_of_toValue isValue with
    | @array ts' vs inside' descends values =>
      rw [Value.toTree_array] at isTree
      obtain ⟨rfl, -⟩ := Tree.array.inj isTree
      have values' := (List.forall₂_and_left ..).mpr ⟨Tree.distinct_array.mp distinct, values⟩
      refine readList_eq_ok.mpr ⟨ts', inside', ds, rfl, descends, ?_, rfl⟩
      exact forall₂_across values'.flip (List.forall₂_map_left_iff.mp each) fun v t d both read =>
        alike.back both.2 both.1 read
    | object =>
      rw [Value.toTree_object] at isTree
      cases isTree
    | _ => cases isTree

lemma map : Alike (readMap .text onText) (readMap .value onValue) where
  forth isValue read := by
    obtain ⟨members, inside, data, rfl, descends, each, rfl⟩ := readMap_eq_ok.mp read
    obtain ⟨-, _, entries, descends', along, rfl⟩ := Tree.toValue_named.mp isValue
    obtain rfl := Except.ok.inj (descends.symm.trans descends')
    have across : Members.Alongside (fun v d => ∀ room', onValue room' v.toTree = .ok d)
        entries data :=
      forall₂_across along each fun m n e isValue read =>
        ⟨isValue.1.symm.trans read.1, fun room' => alike.forth isValue.2 read.2⟩
    have held := across.ofList
    refine readMap_eq_ok.mpr ⟨_, _, Members.ofList data, Value.toTree_object _,
      Value.descend_value _, List.forall₂_map_left_iff.mpr ?_, ?_⟩
    · exact held.imp fun m n both => ⟨both.1, both.2 _⟩
    · rw [Members.ofList_of_sorted (Members.sorted_ofList data)]
  back isValue distinct read := by
    obtain ⟨members, inside, data, isTree, -, each, rfl⟩ := readMap_eq_ok.mp read
    cases Tree.says_of_toValue isValue with
    | @object members' entries inside' descends along =>
      rw [Value.toTree_object] at isTree
      obtain rfl := Tree.named_inj.mp (Tree.object.inj isTree).1
      obtain ⟨alone, distinct⟩ := Tree.distinct_object.mp distinct
      have held : Members.Alongside (fun v d => onValue inside v.toTree = .ok d)
          (Members.ofList entries) data := List.forall₂_map_left_iff.mp each
      -- No entry is lost in the map, so each of them is read.
      have perm := Members.perm_ofList (along.keys ▸ alone)
      have reads : ∀ e ∈ entries, ∃ d, onValue inside e.2.toTree = .ok d :=
        fun e mem => held.exists_of_mem (perm.symm.subset mem)
      obtain ⟨data', all⟩ : ∃ data', Members.Alongside (fun v d => onValue inside v.toTree = .ok d)
          entries data' := Members.Alongside.exists_of_each reads
      have same : Members.ofList data' = data :=
        all.ofList.unique (fun _ _ _ isD isD' => Except.ok.inj (isD.symm.trans isD')) held
      have along' := (List.forall₂_and_left ..).mpr ⟨distinct, along⟩
      refine readMap_eq_ok.mpr ⟨members', inside', data', rfl, descends, ?_, ?_⟩
      · exact forall₂_across along'.flip all fun e m n both read =>
          ⟨both.2.1.trans read.1, alike.back both.2.2 both.1 read.2⟩
      · rw [← same, Members.ofList_of_sorted (Members.sorted_ofList data')]
    | array =>
      rw [Value.toTree_array] at isTree
      cases isTree
    | _ => cases isTree

lemma nullable : Alike (readNullable onText) (readNullable onValue) where
  forth isValue read := by
    cases Tree.says_of_toValue isValue with
    | null => exact read
    | _ => exact alike.forth isValue read
  back isValue distinct read := by
    cases Tree.says_of_toValue isValue with
    | null => exact read
    | _ => exact alike.back isValue distinct read

lemma checked (check : Datum → Except String Datum) :
    Alike (readChecked onText check) (readChecked onValue check) where
  forth isValue read := by
    obtain ⟨d, read, accepted⟩ := readChecked_eq_ok.mp read
    exact readChecked_eq_ok.mpr ⟨d, alike.forth isValue read, accepted⟩
  back isValue distinct read := by
    obtain ⟨d, read, accepted⟩ := readChecked_eq_ok.mp read
    exact readChecked_eq_ok.mpr ⟨d, alike.back isValue distinct read, accepted⟩

end Reader.Alike

/-! ### Alternatives -/

lemma readEither_eq_ok {route : Route} {title : String} {first second : Reader} :
    readEither route title first second room t = .ok d ↔ (∃ v, t.toValue route room = .ok v) ∧
      ((∃ d', first room t = .ok d' ∧ d = .first d') ∨
        (∀ d', first room t ≠ .ok d') ∧ ∃ d', second room t = .ok d' ∧ d = .second d') := by
  rw [readEither, bind_eq_ok, exists_and_right]
  refine and_congr_right fun _ => ?_
  cases first room t with
  | ok d' => simp [eq_comm]
  | error => cases second room t <;> simp [eq_comm]

/-- A first alternative that is a scalar fits a text just when it fits its value. -/
lemma Reader.Alike.either {first second second' : Reader} (scalar : first.Scalar)
    (alike : Alike second second') (title : String) :
    Alike (readEither .text title first second) (readEither .value title first second') where
  forth isValue read := by
    refine readEither_eq_ok.mpr ⟨⟨_, Tree.toValue_again _ isValue _⟩, ?_⟩
    rcases (readEither_eq_ok.mp read).2 with ⟨d', fits, rfl⟩ | ⟨unfit, d', fits, rfl⟩
    · exact .inl ⟨d', (scalar.iff isValue).mp fits, rfl⟩
    · exact .inr ⟨fun d' fits => unfit d' ((scalar.iff isValue).mpr fits), d',
        alike.forth isValue fits, rfl⟩
  back isValue distinct read := by
    refine readEither_eq_ok.mpr ⟨⟨_, isValue⟩, ?_⟩
    rcases (readEither_eq_ok.mp read).2 with ⟨d', fits, rfl⟩ | ⟨unfit, d', fits, rfl⟩
    · exact .inl ⟨d', (scalar.iff isValue).mpr fits, rfl⟩
    · exact .inr ⟨fun d' fits => unfit d' ((scalar.iff isValue).mp fits), d',
        alike.back isValue distinct fits, rfl⟩

end MetricWatch.Json
