import MetricWatch.Daemon.Run

/-!
# Command line

Runs the daemon for as many milliseconds as the first argument says, then interrupts it. The files
of the current directory are given on standard input as a JSON object from names to texts, and no
network is attached, so that every connection is refused.
-/

namespace MetricWatch.CommandLine

open Json (Members Value)
open Daemon (Surroundings Run)

/-- The variables that the program looks at. -/
def keys : List String :=
  [Environment.baseUrlKey, Environment.timeoutKey, Environment.listIntervalKey,
    Environment.namesIntervalKey, Environment.enabledKey, Environment.namespaceKey,
    Environment.tokenKey, Daemon.filterKey, Daemon.formatKey]

/-- The directory in which the program finds its files. -/
def place : List String := ["work"]

/-- The files that an object names. -/
def filesOf (ms : Members Value) : Files :=
  { current := place
    entries := ms.filterMap fun m => match m.2 with
      | .string s => some (place ++ [m.1], .file (Text.Utf8.encode s))
      | _ => none }

/-- The files that standard input holds. -/
def filesOfText (s : String) : Files :=
  match Json.Form.any.ofText s with
  | .ok (.object ms) => filesOf ms
  | _ => filesOf []

/-- A note as a line. -/
def line (isJson : Bool) (n : Note) : String :=
  if isJson then
    Value.toText (.object [("fields", .object (n.fields.put "message" (.string n.message))),
      ("level", .string n.level.name)])
  else
    n.level.name ++ " " ++ n.message
      ++ String.join (n.fields.map fun f => " " ++ f.1 ++ "=" ++ f.2.toText)

/-- The variables that are set. -/
def environment : IO Environment := do
  let mut env : Environment := []
  for key in keys do
    if let some value ← IO.getEnv key then
      env := env.put key (Text.Utf8.encode value)
  return env

/-- Standard input as one text. -/
partial def readAll (input : IO.FS.Stream) (before : String) : IO String := do
  let next ← input.getLine
  if next.isEmpty then return before else readAll input (before ++ next)

/-- A run for so many milliseconds and its interrupt. -/
def run (s : Surroundings) (millis : Nat) : Run Unit :=
  let net := Http.Network.unreachable
  ((Daemon.launch net () s).advance net millis).interrupt net .finished

end MetricWatch.CommandLine

open MetricWatch in
/-- Runs the daemon and reports. -/
def main (args : List String) : IO UInt32 := do
  let text ← CommandLine.readAll (← IO.getStdin) ""
  let surroundings : Daemon.Surroundings :=
    ⟨CommandLine.filesOfText text, "/program", ← CommandLine.environment⟩
  let millis := (args.head?.bind String.toNat?).getD 0
  let run := CommandLine.run surroundings millis
  let shown := surroundings.withDotenv.1
  for note in run.journal Int.ofNat do
    if shown.filter.shows note then
      IO.println (CommandLine.line shown.writesJson note)
  match run.ending with
  | some ending =>
    IO.eprint ending.complaint
    return ending.exit.toUInt32
  | none => return 0
