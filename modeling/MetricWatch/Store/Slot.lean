import MetricWatch.Error
import MetricWatch.Text.Quoted

/-!
# Rounds

A `Slot` lets one round of fetching run at a time. A call starts a round when the slot is free and
joins the round in it otherwise. A round that succeeds or fails frees the slot; one that breaks
off does not, and all who join it later meet the same error. Rounds are numbered in the order in
which they start, and how each of them ended is kept.
-/

namespace MetricWatch

/-- What becomes of a fetch: an answer, an error, or a breakdown with a message. -/
inductive Reply (α : Type)
  | ok (answer : α)
  | failed (e : Error)
  | broke (text : String)
  deriving Repr

/-- Whether asking broke down. -/
def Reply.breaks {α : Type} : Reply α → Bool
  | .broke _ => true
  | _ => false

/-- A place for one round at a time. -/
structure Slot (α : Type) where
  next : Nat
  current : Option Nat
  ended : List (Nat × Except Error α)

/-- What a call meets at a slot. -/
inductive Admission
  | started (round : Nat)
  | joined (round : Nat)
  deriving DecidableEq, Repr

/-- The round of an admission. -/
def Admission.round : Admission → Nat
  | .started r => r
  | .joined r => r

namespace Slot

variable {α : Type}

/-- A slot before any round. -/
def fresh : Slot α := ⟨0, none, []⟩

/-- Whether a round is in the slot. -/
def isPending (s : Slot α) : Bool := s.current.isSome

/-- A call at the slot. -/
def enter (s : Slot α) : Admission × Slot α :=
  match s.current with
  | some round => (.joined round, s)
  | none => (.started s.next, { s with next := s.next + 1, current := some s.next })

/-- How a round ended, if it did. -/
def outcome? (s : Slot α) (round : Nat) : Option (Except Error α) :=
  (s.ended.find? fun e => e.1 = round).map Prod.snd

/-- The end of a round by its own doing. Only its own round is taken out of the slot. -/
def finish (s : Slot α) (round : Nat) (outcome : Except Error α) : Slot α :=
  { s with
    current := if s.current = some round then none else s.current
    ended := (round, outcome) :: s.ended }

/-- The error that all meet who wait for a round that broke off. -/
def breakdown (round : Nat) (text : String) : Error :=
  ⟨.internal, "fetch task failed: task " ++ toString round ++ " panicked with message "
    ++ Text.quoted text⟩

/-- The breakdown of a round, which stays in the slot. -/
def breakOff (s : Slot α) (round : Nat) (text : String) : Slot α :=
  { s with ended := (round, .error (breakdown round text)) :: s.ended }

@[simp] theorem enter_of_pending {s : Slot α} {round : Nat} (h : s.current = some round) :
    s.enter = (.joined round, s) := by
  simp [enter, h]

@[simp] theorem enter_of_free {s : Slot α} (h : s.current = none) :
    s.enter = (.started s.next, { s with next := s.next + 1, current := some s.next }) := by
  simp [enter, h]

end Slot

end MetricWatch
