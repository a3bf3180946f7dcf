import MetricWatch.Metric.Payload

/-!
# Settings

Where the cluster's interface is and how patiently to call it, how often to poll, and which
metrics to watch. Only the base URL has no standard. Settings come about without a text, from a
base URL, and from a text whose members may be left out.
-/

namespace MetricWatch

open Json (Form Members)

/-- Where the interface is and how patiently it is called. -/
structure ServerSettings where
  baseUrl : String
  timeoutSeconds : UInt64
  maxAttempts : UInt64
  deriving DecidableEq, Repr

/-- How often the cluster is polled, and which namespace of names is listed. -/
structure PollingSettings where
  listSeconds : UInt64
  namesSeconds : UInt64
  enabled : Bool
  namesNamespace : String
  deriving DecidableEq, Repr

/-- The metrics that are watched on any node and on single nodes. -/
structure WatchSettings where
  anywhere : List String
  nodes : Members (List String)
  deriving DecidableEq, Repr

/-- All settings. -/
structure Settings where
  server : ServerSettings
  polling : PollingSettings
  watch : WatchSettings
  deriving DecidableEq, Repr

/-! ### Standard values -/

namespace Settings.Standard

def timeoutSeconds : UInt64 := 10

def maxAttempts : UInt64 := 3

def listSeconds : UInt64 := 1

def namesSeconds : UInt64 := 30

def namesNamespace : String := "org"

end Settings.Standard

/-! ### Settings of which little is said -/

/-- A server of which only the base URL is said. -/
def ServerSettings.ofBaseUrl (baseUrl : String) : ServerSettings where
  baseUrl := baseUrl
  timeoutSeconds := Settings.Standard.timeoutSeconds
  maxAttempts := Settings.Standard.maxAttempts

/-- Polling of which nothing is said. -/
def PollingSettings.standard : PollingSettings where
  listSeconds := Settings.Standard.listSeconds
  namesSeconds := Settings.Standard.namesSeconds
  enabled := true
  namesNamespace := Settings.Standard.namesNamespace

/-- Nothing watched. -/
def WatchSettings.nothing : WatchSettings := ⟨[], []⟩

/-- The settings that a base URL alone makes. -/
def Settings.ofBaseUrl (baseUrl : String) : Settings :=
  ⟨.ofBaseUrl baseUrl, .standard, .nothing⟩

/-- Whether nothing is watched. -/
def WatchSettings.isEmpty (w : WatchSettings) : Bool :=
  w.anywhere.isEmpty && w.nodes.all fun n => n.2.isEmpty

/-- The time that one attempt of a call may take. -/
def ServerSettings.timeout (s : ServerSettings) : Duration :=
  Duration.ofSeconds s.timeoutSeconds.toNat

/-! ### Members that are not given

What a member becomes that a text does not give. A member of a section has a value of its own here,
apart from the section's standard. -/

namespace Settings.Absent

def timeoutSeconds : UInt64 := Standard.timeoutSeconds

def maxAttempts : UInt64 := Standard.maxAttempts

def listSeconds : UInt64 := Standard.listSeconds

def namesSeconds : UInt64 := Standard.namesSeconds

def enabled : Bool := true

def namesNamespace : String := Standard.namesNamespace

def anywhere : List String := []

def nodes : Members (List String) := []

def polling : PollingSettings := .standard

def watch : WatchSettings := .nothing

end Settings.Absent

/-! ### Forms -/

open Settings

/-- Server settings in JSON. -/
def ServerSettings.form : Form ServerSettings where
  shape :=
    .record "ServerConfig"
      (.need "base_url" .text <|
        .default "timeout_seconds" (.nat64 "u64")
          ((Form.nat64 "u64").toDatum Absent.timeoutSeconds) <|
        .default "max_attempts" (.nat64 "usize")
          ((Form.nat64 "usize").toDatum Absent.maxAttempts) .done)
  toDatum s :=
    .record [.text s.baseUrl, (Form.nat64 "u64").toDatum s.timeoutSeconds,
      (Form.nat64 "usize").toDatum s.maxAttempts]
  ofDatum?
    | .record [.text baseUrl, timeout, attempts] => do
      let t ← (Form.nat64 "u64").ofDatum? timeout
      let a ← (Form.nat64 "usize").ofDatum? attempts
      some ⟨baseUrl, t, a⟩
    | _ => none

/-- Polling settings in JSON. -/
def PollingSettings.form : Form PollingSettings where
  shape :=
    .record "PollingConfig"
      (.default "list_interval_seconds" (.nat64 "u64")
          ((Form.nat64 "u64").toDatum Absent.listSeconds) <|
        .default "names_interval_seconds" (.nat64 "u64")
          ((Form.nat64 "u64").toDatum Absent.namesSeconds) <|
        .default "enabled" .bool (.bool Absent.enabled) <|
        .default "namespace" .text (.text Absent.namesNamespace) .done)
  toDatum p :=
    .record [(Form.nat64 "u64").toDatum p.listSeconds, (Form.nat64 "u64").toDatum p.namesSeconds,
      .bool p.enabled, .text p.namesNamespace]
  ofDatum?
    | .record [list, names, .bool enabled, .text namesNamespace] => do
      let l ← (Form.nat64 "u64").ofDatum? list
      let n ← (Form.nat64 "u64").ofDatum? names
      some ⟨l, n, enabled, namesNamespace⟩
    | _ => none

/-- Watched metrics in JSON. -/
def WatchSettings.form : Form WatchSettings where
  shape :=
    .record "WatchConfig"
      (.default "global" (.list .text) ((Form.list .text).toDatum Absent.anywhere) <|
        .default "nodes" (.map (.list .text))
          ((Form.members (Form.list .text)).toDatum Absent.nodes) .done)
  toDatum w :=
    .record [(Form.list .text).toDatum w.anywhere,
      (Form.members (Form.list .text)).toDatum w.nodes]
  ofDatum?
    | .record [anywhere, nodes] => do
      let a ← (Form.list .text).ofDatum? anywhere
      let n ← (Form.members (Form.list .text)).ofDatum? nodes
      some ⟨a, n⟩
    | _ => none

/-- Settings in JSON. -/
def Settings.form : Form Settings where
  shape :=
    .record "Config"
      (.need "server" ServerSettings.form.shape <|
        .default "polling" PollingSettings.form.shape (PollingSettings.form.toDatum Absent.polling) <|
        .default "watch" WatchSettings.form.shape (WatchSettings.form.toDatum Absent.watch) .done)
  toDatum s :=
    .record [ServerSettings.form.toDatum s.server, PollingSettings.form.toDatum s.polling,
      WatchSettings.form.toDatum s.watch]
  ofDatum?
    | .record [server, polling, watch] => do
      let s ← ServerSettings.form.ofDatum? server
      let p ← PollingSettings.form.ofDatum? polling
      let w ← WatchSettings.form.ofDatum? watch
      some ⟨s, p, w⟩
    | _ => none

end MetricWatch
