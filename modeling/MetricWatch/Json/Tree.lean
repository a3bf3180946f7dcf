import MetricWatch.Json.Value

/-!
# The tree of a JSON text

A text is read into a `Tree` up to the first place where it stops being JSON. That place is kept
in the tree: a value that does not stand there is `broken`, and an array or object that the text
does not close has a `broken` ending. Whoever walks a tree in order therefore meets its parts, and
the break, in the order of the text. Equal keys of one object are all kept.
-/

namespace MetricWatch.Json

/-- Whether an array or object is closed before the text stops being JSON. -/
inductive Ending
  | closed
  | broken
  deriving DecidableEq, Repr

/-- What stands before a member of an object: a text, a string that is no Unicode text, or nothing,
the member being a value in place of the first key. -/
inductive Key
  | text (s : String)
  | malformed
  | misplaced
  deriving DecidableEq, Repr

/-- A JSON text as far as it is JSON. A number too large for 64-bit floating point and a string
that is no Unicode text are kept without a value. -/
inductive Tree
  | null
  | bool (b : Bool)
  | number (n : Option Number)
  | string (s : Option String)
  | array (items : List Tree) (ending : Ending)
  | object (members : List (Key × Tree)) (ending : Ending)
  | broken
  deriving Inhabited

/-- A tree and whether nothing but blanks follows it in its text. -/
structure Document where
  root : Tree
  whole : Bool

/-! ### Texts that are JSON -/

mutual
/-- Whether a tree has no break. -/
def Tree.intact : Tree → Bool
  | .array items ending => decide (ending = .closed) && Tree.allIntact items
  | .object members ending => decide (ending = .closed) && Tree.membersIntact members
  | .broken => false
  | _ => true

/-- Whether no tree of a list has a break. -/
def Tree.allIntact : List Tree → Bool
  | [] => true
  | t :: rest => t.intact && Tree.allIntact rest

/-- Whether no member of an object has a break. -/
def Tree.membersIntact : List (Key × Tree) → Bool
  | [] => true
  | (_, t) :: rest => t.intact && Tree.membersIntact rest
end

/-! ### Values as trees -/

mutual
/-- The tree of a value. -/
def Value.toTree : Value → Tree
  | .null => .null
  | .bool b => .bool b
  | .number n => .number (some n)
  | .string s => .string (some s)
  | .array items => .array (Value.listToTrees items) .closed
  | .object members => .object (Value.membersToTrees members) .closed

/-- The trees of a list of values. -/
def Value.listToTrees : List Value → List Tree
  | [] => []
  | v :: rest => v.toTree :: Value.listToTrees rest

/-- The members of an object as members of a tree. -/
def Value.membersToTrees : List (String × Value) → List (Key × Tree)
  | [] => []
  | (k, v) :: rest => (.text k, v.toTree) :: Value.membersToTrees rest
end

end MetricWatch.Json
