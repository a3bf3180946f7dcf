import MetricWatch.Json.Value

/-!
# Channels

A channel keeps everything that was sent and, for each subscriber, how much of it the subscriber
has taken or lost. Only the latest events, as many as the capacity, can still be taken; whoever
falls behind is told how many were lost and goes on with the oldest that is left.
-/

namespace MetricWatch

open Json (Members)

/-- A channel; `sent` is latest first. -/
structure Channel (α : Type) where
  capacity : Nat
  sent : List α
  places : Members Nat

/-- What a subscriber gets. -/
inductive Receipt (α : Type)
  | event (a : α)
  | lagged (missed : Nat)
  | none
  deriving Repr

namespace Channel

variable {α : Type}

/-- The least power of two that is not less than a number, doubling a start so many times. -/
def roundUp (n start : Nat) : Nat → Nat
  | 0 => start
  | more + 1 => if n ≤ start then start else roundUp n (2 * start) more

/-- A channel for at least so many events, rounded up to a power of two. -/
def ofCapacity (n : Nat) : Channel α := ⟨roundUp n 1 n, [], []⟩

/-- The number of events that were sent. -/
def length (c : Channel α) : Nat := c.sent.length

/-- The channel after an event is sent. -/
def send (c : Channel α) (a : α) : Channel α := { c with sent := a :: c.sent }

/-- The channel after someone subscribes, who gets what is sent from now on. -/
def subscribe (c : Channel α) (subscriber : String) : Channel α :=
  { c with places := c.places.put subscriber c.length }

/-- The channel after someone leaves. -/
def unsubscribe (c : Channel α) (subscriber : String) : Channel α :=
  { c with places := c.places.erase subscriber }

/-- Whether someone is subscribed. -/
def isSubscribed (c : Channel α) (subscriber : String) : Bool :=
  (c.places.get? subscriber).isSome

/-- The event that was sent after so many others. -/
def eventAt? (c : Channel α) (place : Nat) : Option α :=
  if place < c.length then c.sent[c.length - 1 - place]? else none

/-- What a subscriber at a place gets, and the place after that. -/
def take (c : Channel α) (place : Nat) : Receipt α × Nat :=
  let oldest := c.length - c.capacity
  if place < oldest then (.lagged (oldest - place), oldest)
  else match c.eventAt? place with
    | some a => (.event a, place + 1)
    | none => (.none, place)

/-- A subscriber takes what is next, if subscribed at all. -/
def receive (c : Channel α) (subscriber : String) : Option (Receipt α × Channel α) :=
  (c.places.get? subscriber).map fun place =>
    let (receipt, next) := c.take place
    (receipt, { c with places := c.places.put subscriber next })

end Channel

end MetricWatch
