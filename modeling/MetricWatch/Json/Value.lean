import MetricWatch.Number.Numeral

/-!
# JSON values

A JSON value with its objects in key order. `Members.put` keeps that order and lets the last of
two equal keys win, so that two values say the same exactly when they are equal.
-/

namespace MetricWatch.Json

/-- A JSON value; the members of an object are in strictly increasing key order. -/
inductive Value
  | null
  | bool (b : Bool)
  | number (n : Number)
  | string (s : String)
  | array (items : List Value)
  | object (members : List (String × Value))
  deriving Repr, Inhabited

/-! ### Maps in key order -/

/-- A map from texts, as its entries in key order. -/
abbrev Members (α : Type) := List (String × α)

namespace Members

variable {α : Type}

/-- The entry of a key set to a value. -/
def put (key : String) (value : α) : Members α → Members α
  | [] => [(key, value)]
  | (k, v) :: rest =>
    if key < k then (key, value) :: (k, v) :: rest
    else if key = k then (key, value) :: rest
    else (k, v) :: put key value rest

/-- The value at a key. -/
def get? (members : Members α) (key : String) : Option α :=
  (members.find? fun m => m.1 = key).map Prod.snd

/-- The map without a key. -/
def erase (key : String) (members : Members α) : Members α :=
  members.filter fun m => m.1 ≠ key

/-- The map of entries in order of appearance, the last of two equal keys winning. -/
def ofList (entries : List (String × α)) : Members α :=
  entries.foldl (fun m e => put e.1 e.2 m) []

/-- The keys, in order. -/
def keys (members : Members α) : List String := members.map Prod.fst

@[simp] theorem put_nil (key : String) (value : α) : put key value [] = [(key, value)] := rfl

@[simp] theorem get?_nil (key : String) : get? ([] : Members α) key = none := rfl

theorem get?_cons (k key : String) (v : α) (rest : Members α) :
    get? ((k, v) :: rest) key = if k = key then some v else get? rest key := by
  by_cases h : k = key <;> simp [get?, h]

/-- Setting a key changes the value at that key and at no other. -/
theorem get?_put (key : String) (value : α) (members : Members α) (other : String) :
    get? (put key value members) other = if key = other then some value else get? members other := by
  induction members with
  | nil => simp [get?_cons]
  | cons m rest ih =>
    obtain ⟨k, v⟩ := m
    by_cases hlt : key < k
    · simp [put, hlt, get?_cons]
    · by_cases heq : key = k
      · subst heq
        simp only [put, hlt, if_false, if_true, get?_cons]
        split <;> rfl
      · simp only [put, hlt, heq, if_false, get?_cons, ih]
        by_cases hk : k = other
        · subst hk
          simp [heq]
        · simp [hk]

end Members

end MetricWatch.Json
