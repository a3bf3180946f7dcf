import MetricWatch.Settings.Basic
import MetricWatch.Watch.Registrations

/-!
# Watches

The metrics that settings ask to watch, as registrations. Every mention counts once, so a name
that is listed twice is registered twice.
-/

namespace MetricWatch

/-- The mentions of names on single nodes. -/
def WatchSettings.mentions (w : WatchSettings) : List (String × String) :=
  w.nodes.flatMap fun n => n.2.map fun name => (n.1, name)

/-- How many registrations the watched metrics make. -/
def WatchSettings.total (w : WatchSettings) : Nat := w.anywhere.length + w.mentions.length

/-- The registrations with those of all watched metrics. -/
def Registrations.watch (r : Registrations) (w : WatchSettings) : Registrations :=
  w.mentions.foldl (fun r m => r.add m.1 m.2) (w.anywhere.foldl Registrations.addGlobal r)

end MetricWatch
