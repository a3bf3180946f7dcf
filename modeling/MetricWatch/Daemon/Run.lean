import MetricWatch.Daemon.Basic
import MetricWatch.Daemon.EventLog
import MetricWatch.Settings.Loader
import MetricWatch.Settings.Dotenv
import MetricWatch.Journal.Filter

/-!
# A run of the program

The program reads its settings, makes the daemon, registers the watched metrics and polls until it
is interrupted; with polling turned off it asks for metrics once and waits. What it could not do is
told in a complaint, with the exit code one.
-/

namespace MetricWatch.Daemon

variable {σ : Type}

/-! ### Surroundings -/

/-- What the program finds when it starts: files, the directory it stands in, and variables. -/
structure Surroundings where
  files : Files
  program : String
  environment : Environment

/-- The directories near which settings files are looked for. -/
def Surroundings.roots (s : Surroundings) : List String :=
  ["/" ++ String.intercalate "/" s.files.current, s.program]

/-- The surroundings after the file of variables, and what is noted of it. -/
def Surroundings.withDotenv (s : Surroundings) : Surroundings × Note :=
  let (env, found) := Dotenv.load s.files s.environment
  ({ s with environment := env }, .info (if found then "Loaded .env" else "No .env loaded"))

/-- The settings that surroundings hold, and what is noted of them. -/
def Surroundings.settings (s : Surroundings) : Except Error Settings × List Note :=
  let settings := Loader.load s.files s.roots s.environment
  let isFile := (Loader.probe? s.files s.roots).isSome
  let before : List Note := if isFile then [.info "Loading configuration from file"] else []
  let after : List Note := match settings with
    | .error _ => []
    | .ok _ =>
      [.info (if isFile then "Configuration loaded from file with environment overrides"
        else "Configuration loaded from environment variables")]
  (settings, before ++ after)

/-- The variable that chooses which notes are shown. -/
def filterKey : String := "RUST_LOG"

/-- The variable that chooses how notes are written. -/
def formatKey : String := "CLUSTERWATCH_LOG_FORMAT"

/-- Which notes are shown. -/
def Surroundings.filter (s : Surroundings) : Filter :=
  match s.environment.text? filterKey with
  | some text => .ofText text
  | none => .standard

/-- Whether notes are written as JSON. -/
def Surroundings.writesJson (s : Surroundings) : Bool :=
  (s.environment.text? formatKey).any fun text =>
    String.ofList ((Text.trimList text.toList).map Char.toLower) = "json"

/-! ### Complaints -/

/-- A text whose lines after the first are moved in. -/
def movedIn (s : String) : String := s.replace "\n" "\n    "

/-- The complaint of something that failed for a reason. -/
def complaint (what reason : String) : String :=
  "Error: " ++ what ++ "\n\nCaused by:\n    " ++ movedIn reason ++ "\n"

/-- The complaint of a reason alone. -/
def bareComplaint (reason : String) : String := "Error: " ++ reason ++ "\n"

/-! ### Runs -/

/-- How a run ended: its exit code and its complaint. -/
structure Ending where
  exit : Nat
  complaint : String
  deriving DecidableEq, Repr

/-- The ending of a run that did what it should. -/
def Ending.fine : Ending := ⟨0, ""⟩

/-- A run of the program: its daemon while it is there, how it ended, and all notes in order but
those that are still with the daemon. -/
structure Run (σ : Type) where
  daemon : Option (Daemon σ)
  ending : Option Ending
  notes : List Note

/-- The subscriber that notes events. -/
def logger : String := "log"

/-- A run that failed. -/
def Run.failed (notes : List Note) (what reason : String) : Run σ :=
  ⟨none, some ⟨1, complaint what reason⟩, notes⟩

/-- The settings note at the beginning of a run. -/
def startingNote (settings : Settings) : Note :=
  { level := .info
    message := "ClusterWatch starting"
    fields := [("base_url", .string settings.server.baseUrl)] }

/-- What a daemon does first: it begins to poll, or it asks for metrics once. -/
def begin (net : Http.Network σ) (d : Daemon σ) (isPolling : Bool) : Daemon σ :=
  let store := d.store
  let t := { d.timeline with store := { store with channel := store.channel.subscribe logger } }
  if isPolling then { d with timeline := t.startPoller.2.settle (d.source net) }
  else
    let t := t.note (.info "Polling disabled; fetching once")
    let (results, t) := t.callInFront (d.source net) .list 1
    let t := match results with
      | some [.listed (some (.error _))] => t.note (.warn "Initial metrics fetch failed")
      | _ => t
    { d with timeline := t }

/-- A run up to the moment from which on it waits for its interrupt. -/
def launch (net : Http.Network σ) (network : σ) (s : Surroundings) : Run σ :=
  let (s, loaded) := s.withDotenv
  let (settings, reading) := s.settings
  let notes := loaded :: reading
  match settings with
  | .error e => .failed notes "failed to load configuration" e.message
  | .ok settings =>
    let (built, building) := build settings s.environment.token? network
    let notes := notes ++ startingNote settings :: building
    match built with
    | .error fault => .failed notes "failed to build client" fault.message
    | .ok d =>
      let session : List Note :=
        if d.store.session.isLoggedIn then [.info "Session started"] else []
      let (total, watched, d) := d.watch settings.watch
      let unwatched : List Note :=
        if total = 0 then
          [.warn "No metrics watched; add a \x60watch\x60 section to the config file"]
        else []
      ⟨some (d.begin net settings.polling.enabled), none,
        notes ++ session ++ watched :: unwatched⟩

/-- A run so many milliseconds later. -/
def Run.advance (net : Http.Network σ) (r : Run σ) (millis : Nat) : Run σ :=
  { r with
    daemon := r.daemon.map fun d =>
      { d with timeline := d.timeline.advance (d.source net) millis } }

/-- A run after its interrupt, if the task of the poller's loop ends so. -/
def Run.interrupt (net : Http.Network σ) (r : Run σ) (exit : Poller.Exit) : Run σ :=
  match r.daemon with
  | none => r
  | some d =>
    let t := d.timeline.note (.info "Shutdown requested")
    let (stopped, t) :=
      if t.isRunning then t.stopPoller (d.source net) exit else (.ok (), t)
    let (ending, t) := match stopped with
      | .ok () => (Ending.fine, t.note (.info "ClusterWatch stopped"))
      | .error e => (⟨1, bareComplaint e.message⟩, t)
    { r with daemon := some { d with timeline := t }, ending := some ending }

/-- All notes of a run, those of events behind the others. -/
def Run.journal (instant : Nat → Int) (r : Run σ) : List Note :=
  match r.daemon with
  | none => r.notes
  | some d =>
    r.notes ++ d.timeline.notes.reverse
      ++ (EventLog.drain instant logger d.store.channel).1

end MetricWatch.Daemon
