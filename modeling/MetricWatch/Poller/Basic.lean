import MetricWatch.Error

/-!
# Polling

The poller runs two schedules in one loop: one asks for metrics, the other refreshes the nodes and
asks for names. A schedule ticks at once and then at every interval, but never before its round
has ended. A tick that is late by more than the grace shifts those that follow.
-/

namespace MetricWatch

namespace Poller

/-- How often the two schedules tick and how long a stop waits, in milliseconds. -/
structure Timing where
  listEvery : Nat := 1000
  namesEvery : Nat := 30000
  stopWithin : Nat := 5000
  deriving DecidableEq, Repr

/-- The shortest interval between ticks. -/
def shortestInterval : Nat := 1

/-- How late a tick may be without shifting those that follow. -/
def grace : Nat := 5

/-- When the tick after one is due that was due at a time and comes at another. -/
def nextDue (period due now : Nat) : Nat :=
  if due + grace < now then now + period else due + period

/-- How often the schedules ticked and failed. -/
structure Stats where
  listTicks : Nat := 0
  listFailures : Nat := 0
  namesTicks : Nat := 0
  namesFailures : Nat := 0
  deriving DecidableEq, Repr

/-- One of the two schedules. -/
inductive Which
  | list
  | names
  deriving DecidableEq, Repr

/-- The statistics with another tick. -/
def Stats.tick (s : Stats) : Which → Stats
  | .list => { s with listTicks := s.listTicks + 1 }
  | .names => { s with namesTicks := s.namesTicks + 1 }

/-- The statistics with another failure. -/
def Stats.fail (s : Stats) : Which → Stats
  | .list => { s with listFailures := s.listFailures + 1 }
  | .names => { s with namesFailures := s.namesFailures + 1 }

/-- What a schedule does. -/
inductive Stage
  /-- It waits for its tick; `armed` once a timer is set for it. -/
  | resting (armed : Bool)
  /-- It waits for the nodes, which are there at a time. -/
  | refreshing (until_ : Nat) (nodes : Except Api.Error (List String))
  /-- It waits for a round; `failed` if the nodes could not be refreshed. -/
  | inRound (round : Nat) (failed : Bool)
  /-- It has ended. -/
  | stopped

/-- A schedule: its interval, when its next tick is due and what it does. -/
structure Schedule where
  period : Nat
  due : Nat
  stage : Stage

/-- A schedule that ticks at once. -/
def Schedule.start (interval now : Nat) : Schedule :=
  ⟨max interval shortestInterval, now, .resting false⟩

/-- Whether a schedule has ended. -/
def Schedule.isStopped (s : Schedule) : Bool :=
  match s.stage with
  | .stopped => true
  | _ => false

/-- A loop with both schedules. Which of them is looked at first alternates. -/
structure Loop where
  id : Nat
  cancelled : Bool
  namesFirst : Bool
  list : Schedule
  names : Schedule

/-- One of a loop's schedules. -/
def Loop.schedule (l : Loop) : Which → Schedule
  | .list => l.list
  | .names => l.names

/-- A loop with another schedule in place of one. -/
def Loop.withSchedule (l : Loop) (which : Which) (s : Schedule) : Loop :=
  match which with
  | .list => { l with list := s }
  | .names => { l with names := s }

/-- Whether a loop has ended. -/
def Loop.isFinished (l : Loop) : Bool := l.list.isStopped && l.names.isStopped

/-- How the task of a loop ends that is waited for: as it should, or in a breakdown of something
that it runs, with what is told of that. -/
inductive Exit
  | finished
  | broke (text : String)
  deriving DecidableEq, Repr

/-- What one gets who waits for a task that ended so. -/
def Exit.joined : Exit → Except Error Unit
  | .finished => .ok ()
  | .broke text => .error (.taskJoinFailed text)

end Poller

/-- A poller: its timing, whether it refreshes the nodes, the loop it would wait for when it is
stopped, and the loop it would cancel. -/
structure Poller where
  timing : Poller.Timing
  refreshes : Bool
  handle : Option Nat
  current : Option Nat

/-- A poller that was never started. -/
def Poller.fresh (timing : Poller.Timing) (refreshes : Bool) : Poller :=
  ⟨timing, refreshes, none, none⟩

end MetricWatch
