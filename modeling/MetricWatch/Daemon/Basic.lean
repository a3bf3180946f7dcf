import MetricWatch.Api.Source
import MetricWatch.Watch.Watches
import MetricWatch.Timeline.Polling

/-!
# The daemon

A store over the cluster's interface, with a poller that refreshes the nodes, made from settings
and an access token. Without a token it stays logged out and asks for no metrics.
-/

namespace MetricWatch

open Json (Value)

/-- A daemon: its client and the timeline of its store. -/
structure Daemon (σ : Type) where
  client : Api.Client
  timeline : Timeline (Api.Wire σ)

namespace Daemon

variable {σ : Type}

/-- Why a daemon could not be made. -/
inductive Fault
  | token (e : Error)
  | client (e : Api.Error)
  | store (e : Error)
  deriving Repr

/-- The message of a fault. -/
def Fault.message : Fault → String
  | .token e => e.message
  | .client e => e.message
  | .store e => e.message

/-- The target that server settings name. -/
def target (s : ServerSettings) : Api.Target := ⟨s.baseUrl, s.timeout, s.maxAttempts.toNat⟩

/-- The timing that polling settings give. -/
def timing (p : PollingSettings) : Poller.Timing :=
  { listEvery := 1000 * p.listSeconds.toNat, namesEvery := 1000 * p.namesSeconds.toNat }

/-- The session of a token, and what is noted if there is none. -/
def openSession (token : Option String) : Except Fault (Session × List Note) :=
  match token with
  | some token => ((Session.withToken token).mapError .token).map fun s => (s, [])
  | none =>
    .ok (.loggedOut, [.warn "CLUSTERWATCH_TOKEN not set; metrics polls will be skipped"])

/-- What is noted of a client. -/
def clientNote (c : Api.Client) : Note :=
  { level := .debug, message := "API client ready", fields := [("base_url", .string c.baseUrl)] }

/-- The daemon of settings and a token on a network in some state, and what is noted. -/
def build (settings : Settings) (token : Option String) (network : σ) :
    Except Fault (Daemon σ) × List Note :=
  match openSession token with
  | .error e => (.error e, [])
  | .ok (session, notes) =>
    match Api.Client.build (target settings.server) with
    | .error e => (.error (.client e), notes)
    | .ok client =>
      let notes := notes ++ [clientNote client]
      let parts : StoreParts :=
        { hasSource := true
          session := some session
          directory := none
          namesNamespace := some settings.polling.namesNamespace
          capacity := none }
      match parts.build with
      | .error e => (.error (.store e), notes)
      | .ok store =>
        let t := (Timeline.start store { network := network }).withPoller
          (timing settings.polling) true
        (.ok ⟨client, t⟩, notes)

/-- The source that a daemon asks. -/
def source (net : Http.Network σ) (d : Daemon σ) : Source (Api.Wire σ) := Api.source net d.client

/-- The store of a daemon. -/
def store (d : Daemon σ) : Store := d.timeline.store

/-- The daemon with the watched metrics registered; also how many registrations were made and what
is noted. -/
def watch (d : Daemon σ) (w : WatchSettings) : Nat × Note × Daemon σ :=
  let t := d.timeline
  let store := t.store.register fun r => r.watch w
  let note : Note :=
    { level := .info
      message := "Watches registered"
      fields :=
        [("fetch_set", .number (.nat store.registrations.toFetch.length)),
          ("total", .number (.nat w.total))] }
  (w.total, note, { d with timeline := { t with store := store } })

end Daemon

end MetricWatch
