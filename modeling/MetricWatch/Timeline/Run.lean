import MetricWatch.Timeline.Step

/-!
# Runs of a timeline

A timeline settles when every task that is ready has gone on. The clock then moves to the next
timer, and so on until something holds or a limit is reached. Callers may wait in front, all at
once, or in the background.
-/

namespace MetricWatch.Timeline

variable {σ : Type}

/-! ### Settling -/

/-- The task that became ready first goes on. -/
def next (S : Source σ) (t : Timeline σ) : Timeline σ :=
  match t.ready with
  | [] => t
  | task :: rest => { t with ready := rest }.step S task

/-- The timeline after at most so many tasks went on. -/
def settleWithin (S : Source σ) : Nat → Timeline σ → Timeline σ
  | 0, t => t
  | fuel + 1, t => if t.ready.isEmpty then t else settleWithin S fuel (t.next S)

/-- More than the number of tasks that go on in an instant: a schedule ticks at most once for each
millisecond of the grace and once more, a tick starts at most one round, and a round wakes its
fetch and whoever waits for it a few times. -/
def settleFuel (t : Timeline σ) : Nat :=
  256 * (1 + t.ready.length + t.fetches.length + t.callers.length + t.loops.length)

/-- The timeline once no task is ready. -/
def settle (S : Source σ) (t : Timeline σ) : Timeline σ := settleWithin S t.settleFuel t

/-! ### The clock -/

/-- Moves the clock on to a time; the timers that are due go off in order. -/
def moveTo (t : Timeline σ) (time : Nat) : Timeline σ :=
  let now := max t.now time
  let due := t.timers.takeWhile fun timer => timer.due ≤ now
  { t with now := now, timers := t.timers.drop due.length }.wakeAll (due.map Timer.task)

/-- Lets the timeline go on until something holds when it has settled, or until a limit, by at
most so many moves of the clock. Also whether it held. -/
def waitWithin (S : Source σ) (holds : Timeline σ → Bool) (limit : Nat) :
    Nat → Timeline σ → Bool × Timeline σ
  | 0, t => (false, t)
  | moves + 1, t =>
    let t := t.settle S
    if holds t then (true, t)
    else match t.timers with
      | timer :: _ =>
        if timer.due ≤ limit then waitWithin S holds limit moves (t.moveTo timer.due)
        else (false, t.moveTo limit)
      | [] => (false, t.moveTo limit)

/-- Lets the timeline go on until something holds, for at most so many milliseconds. -/
def waitUntil (S : Source σ) (holds : Timeline σ → Bool) (patience : Nat) (t : Timeline σ) :
    Bool × Timeline σ :=
  waitWithin S holds (t.now + patience) (patience + t.timers.length + 2) t

/-- The timeline so many milliseconds later. -/
def advance (S : Source σ) (t : Timeline σ) (millis : Nat) : Timeline σ :=
  (t.waitUntil S (fun _ => false) millis).2.settle S

/-- How long anyone waits in front. -/
def patience : Nat := 3600000

/-! ### Callers -/

/-- So many calls for a round, one after the other; what each met. -/
def callTimes (kind : RoundKind) : Nat → Timeline σ → List (Option Nat) × Timeline σ
  | 0, t => ([], t)
  | n + 1, t =>
    let (met, t) := t.call kind
    let (more, t) := callTimes kind n t
    (met :: more, t)

/-- Whether what a call met has ended. -/
def isOver (t : Timeline σ) (kind : RoundKind) (met : Option Nat) : Bool :=
  match met with
  | none => true
  | some round => (t.result? kind round).isSome

/-- What one gets who met something. -/
def resultOf (t : Timeline σ) (kind : RoundKind) (met : Option Nat) : CallResult :=
  (met.bind fun round => t.result? kind round).getD (notAdmitted kind)

/-- So many callers in front call for a round at once and wait for it; nothing if they lose
patience. -/
def callInFront (S : Source σ) (t : Timeline σ) (kind : RoundKind) (n : Nat) :
    Option (List CallResult) × Timeline σ :=
  let (met, t) := callTimes kind n t
  let (arrived, t) := t.waitUntil S (fun t => met.all (t.isOver kind)) patience
  if arrived then
    (some (met.map (t.resultOf kind)),
      (met.filterMap id).foldl (fun t round => (t.see kind round).2) t)
  else (none, t)

/-- Another caller in the background, and its number. -/
def spawn (t : Timeline σ) (kind : RoundKind) : Nat × Timeline σ :=
  let id := t.callers.length
  let caller : Caller := ⟨id, kind, .begun⟩
  (id, { t with callers := t.callers ++ [caller] }.wake (.caller id))

/-- A caller in the background gives up, unless it has its result. Its round goes on. -/
def abandon (t : Timeline σ) (id : Nat) : Timeline σ :=
  { t with
    callers := t.callers.map fun c =>
      if c.id = id then
        match c.stage with
        | .finished _ => c
        | _ => { c with stage := .aborted }
      else c }

/-- How a caller in the background ended: with a result, or by giving up. -/
def ending? (t : Timeline σ) (id : Nat) : Option (Option CallResult) :=
  (t.callers.find? fun c => c.id = id).bind fun c =>
    match c.stage with
    | .finished result => some (some result)
    | .aborted => some none
    | .begun | .waiting _ => none

/-- Waits in front for a caller in the background; nothing if patience is lost. -/
def join (S : Source σ) (t : Timeline σ) (id : Nat) :
    Option (Option CallResult) × Timeline σ :=
  let (_, t) := t.waitUntil S (fun t => (t.ending? id).isSome) patience
  (t.ending? id, t)

/-! ### Gates and owners -/

/-- Opens or closes the gate of one kind of answers. When it opens, those held back arrive in
order. -/
def setGate (t : Timeline σ) (kind : RoundKind) (isOpen : Bool) : Timeline σ :=
  let t := match kind with
    | .list => { t with listOpen := isOpen }
    | .names => { t with namesOpen := isOpen }
  if isOpen then
    let held := t.fetches.filter fun f => f.kind = kind && match f.stage with
      | .held _ _ => true
      | _ => false
    t.wakeAll (held.map fun f => .fetch f.kind f.round)
  else t

/-- The owner gives the store up; what runs on it keeps it. -/
def releaseStore (t : Timeline σ) : Timeline σ := { t with kept := false }

end MetricWatch.Timeline
