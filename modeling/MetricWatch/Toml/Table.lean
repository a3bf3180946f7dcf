import MetricWatch.Json.Tree

/-!
# Tables of TOML

A document is built from headers and entries. A table can be opened by a header once, is implied
by a header of a table inside it, or arises from a dotted key; what may be added to it later
depends on which of these it was. Anything that would say a thing twice is refused.
-/

namespace MetricWatch.Toml

open Json (Key Tree)

/-- How a table came to be. -/
inductive Origin
  | opened
  | implied
  | dotted
  deriving DecidableEq, Repr

/-- What a key holds: a finished value, a table, or an array of tables, latest first. -/
inductive Node
  | leaf (tree : Tree)
  | table (origin : Origin) (entries : List (String × Node))
  | tables (last : List (String × Node)) (before : List (List (String × Node)))
  deriving Inhabited

/-- The entries of a table, in order of appearance. -/
abbrev Entries := List (String × Node)

namespace Entries

/-- What a key holds. -/
def get? (entries : Entries) (key : String) : Option Node :=
  (entries.find? fun e => e.1 = key).map Prod.snd

/-- The entries with another node under a key. -/
def set (key : String) (node : Node) : Entries → Entries
  | [] => [(key, node)]
  | (k, n) :: rest => if k = key then (key, node) :: rest else (k, n) :: set key node rest

/-- Changes the table that a header's path leads to; tables on the way are implied. -/
def within (path : List String) (change : Entries → Option Entries) (entries : Entries) :
    Option Entries :=
  match path with
  | [] => change entries
  | key :: path =>
    match entries.get? key with
    | none => do
      let inner ← within path change []
      some (entries.set key (.table .implied inner))
    | some (.table origin inner) => do
      let inner ← within path change inner
      some (entries.set key (.table origin inner))
    | some (.tables last before) => do
      let last ← within path change last
      some (entries.set key (.tables last before))
    | some (.leaf _) => none

/-- Sets a key that a dotted path leads to. A table on the way must not be one that a header
opened, and the last one must be dotted itself; `mayHold` says whether this table may hold the
key. -/
def insert (path : List String) (key : String) (tree : Tree) (mayHold : Bool)
    (entries : Entries) : Option Entries :=
  match path with
  | [] =>
    if mayHold ∧ (entries.get? key).isNone then some (entries.set key (.leaf tree)) else none
  | k :: path =>
    match entries.get? k with
    | none => do
      let inner ← insert path key tree true []
      some (entries.set k (.table .dotted inner))
    | some (.table origin inner) =>
      if origin = .opened then none
      else do
        let inner ← insert path key tree (decide (origin = .dotted)) inner
        some (entries.set k (.table origin inner))
    | some (.tables last before) => do
      let last ← insert path key tree false last
      some (entries.set k (.tables last before))
    | some (.leaf _) => none

/-- Opens a table under a key. -/
def openTable (key : String) (entries : Entries) : Option Entries :=
  match entries.get? key with
  | none => some (entries.set key (.table .opened []))
  | some (.table .implied inner) => some (entries.set key (.table .opened inner))
  | some _ => none

/-- Opens another table of the array of tables under a key. -/
def openInArray (key : String) (entries : Entries) : Option Entries :=
  match entries.get? key with
  | none => some (entries.set key (.tables [] []))
  | some (.tables last before) => some (entries.set key (.tables [] (last :: before)))
  | some _ => none

end Entries

mutual
/-- The tree of a node. -/
def Node.toTree : Node → Tree
  | .leaf tree => tree
  | .table _ entries => .object (Node.toMembers entries) .closed
  | .tables last before =>
    .array (Node.toTrees before [.object (Node.toMembers last) .closed]) .closed

/-- The members of a table's tree. -/
def Node.toMembers : List (String × Node) → List (Key × Tree)
  | [] => []
  | (key, node) :: rest => (.text key, node.toTree) :: Node.toMembers rest

/-- The trees of tables given latest first, before others. -/
def Node.toTrees : List (List (String × Node)) → List Tree → List Tree
  | [], after => after
  | entries :: before, after =>
    Node.toTrees before (.object (Node.toMembers entries) .closed :: after)
end

/-- The tree of a table. -/
def Entries.toTree (entries : Entries) : Tree := .object (Node.toMembers entries) .closed

end MetricWatch.Toml
