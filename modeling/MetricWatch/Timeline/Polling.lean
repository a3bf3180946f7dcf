import MetricWatch.Timeline.Run

/-!
# Starting and stopping the poller

Each start begins a loop of its own, which only the stop after it, or giving up the poller, can
cancel. A stop waits for the cancelled loop to wind down, but not for ever, and whether it does,
breaks down or does not, the poller no longer counts as running.
-/

namespace MetricWatch.Timeline

variable {σ : Type}

/-- The timeline with a poller that was never started. -/
def withPoller (t : Timeline σ) (timing : Poller.Timing) (refreshes : Bool) : Timeline σ :=
  { t with poller := some (.fresh timing refreshes) }

/-- Begins another loop for a poller. -/
def beginLoop (t : Timeline σ) (p : Poller) : Timeline σ :=
  let id := t.loopCount
  let begun : Poller.Loop :=
    { id := id
      cancelled := false
      namesFirst := false
      list := .start p.timing.listEvery t.now
      names := .start p.timing.namesEvery t.now }
  { t with
    loopCount := id + 1
    loops := t.loops ++ [begun]
    poller := some { p with handle := some id, current := some id } }.wake (.loop id)

/-- Starts the poller, if it is there. -/
def startPoller (t : Timeline σ) : Except Poller.Error Unit × Timeline σ :=
  match t.poller with
  | none => (.error .notRunning, t)
  | some p =>
    if t.isRunning then (.error .alreadyRunning, t)
    else (.ok (), (t.note (.info "Starting metrics poller")).beginLoop p)

/-- Cancels the loop that the poller last began. -/
def cancelLoop (t : Timeline σ) (p : Poller) : Timeline σ :=
  match p.current with
  | some id => (t.changeLoop id fun l => { l with cancelled := true }).wake (.loop id)
  | none => t

/-- Stops the poller: cancels its loop and waits for the end of it, however its task ends. -/
def stopPoller (S : Source σ) (t : Timeline σ) (exit : Poller.Exit) :
    Except Poller.Error Unit × Timeline σ :=
  match t.poller with
  | none => (.error .notRunning, t)
  | some p =>
    if t.isRunning then
      let t := (t.note (.info "Stopping metrics poller")).cancelLoop p
      let t := { t with poller := some { p with handle := none } }
      let timeout : Poller.Error := .timeout (p.timing.stopWithin / 1000)
      if p.timing.stopWithin = 0 then (.error timeout, t)
      else
        let gone (t : Timeline σ) : Bool := p.handle.all fun id => (t.loop? id).isNone
        let (arrived, t) := t.waitUntil S gone p.timing.stopWithin
        if arrived then
          match exit with
          | .finished => (exit.joined, t.note (.info "Metrics poller stopped"))
          | .broke _ => (exit.joined, t)
        else (.error timeout, t)
    else (.error .notRunning, t)

/-- Gives the poller up; a loop that runs is cancelled. -/
def releasePoller (t : Timeline σ) : Timeline σ :=
  match t.poller with
  | none => t
  | some p =>
    let t :=
      if t.isRunning then
        (t.note (.warn "MetricsPoller dropped while running; cancelling")).cancelLoop p
      else t
    { t with poller := none }

end MetricWatch.Timeline
