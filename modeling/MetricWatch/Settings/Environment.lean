import MetricWatch.Settings.Basic
import MetricWatch.Text.Unsigned

/-!
# Settings from the environment

Six variables override six settings. A variable counts only if its bytes are UTF-8. Texts count
unless they are blank, numbers are trimmed and must be readable, and any text that is no word for
yes turns polling off. A seventh variable holds the access token.
-/

namespace MetricWatch

open Json (Members)

/-- The variables of a process, by name and bytes. -/
abbrev Environment := Members (List UInt8)

namespace Environment

/-! ### Variables -/

/-- The text of a variable, if it is set to UTF-8. -/
def text? (env : Environment) (key : String) : Option String :=
  (env.get? key).bind Text.Utf8.decode?

/-- The text of a variable, unless it is blank. -/
def nonBlank? (env : Environment) (key : String) : Option String :=
  (env.text? key).bind Text.nonBlank?

/-- The number of a variable, if it is set. -/
def number? (env : Environment) (key what : String) : Except Error (Option UInt64) :=
  match env.text? key with
  | none => .ok none
  | some s =>
    match Text.readUnsigned (Text.trim s) with
    | .ok n => .ok (some n)
    | .error f => .error ⟨.config, "Invalid " ++ what ++ " in " ++ key ++ ": " ++ f.message⟩

/-- The words for yes. -/
def yesWords : List String := ["1", "true", "yes", "on"]

/-- Whether a variable says yes, if it is set. -/
def yes? (env : Environment) (key : String) : Option Bool :=
  (env.text? key).map fun s => yesWords.contains (String.ofList (s.toList.map Char.toLower))

/-! ### Names -/

/-- The variable of the base URL. -/
def baseUrlKey : String := "CLUSTERWATCH_BASE_URL"

/-- The variable of an attempt's time limit in seconds. -/
def timeoutKey : String := "CLUSTERWATCH_TIMEOUT_SECONDS"

/-- The variable of the seconds between metrics polls. -/
def listIntervalKey : String := "CLUSTERWATCH_LIST_INTERVAL"

/-- The variable of the seconds between names polls. -/
def namesIntervalKey : String := "CLUSTERWATCH_NAMES_INTERVAL"

/-- The variable that turns polling on or off. -/
def enabledKey : String := "CLUSTERWATCH_POLLING_ENABLED"

/-- The variable of the namespace whose names are listed. -/
def namespaceKey : String := "CLUSTERWATCH_NAMESPACE"

/-- The variable of the access token. -/
def tokenKey : String := "CLUSTERWATCH_TOKEN"

/-! ### Settings -/

/-- The access token of the environment. -/
def token? (env : Environment) : Option String := env.nonBlank? tokenKey

/-- Settings overridden by the environment. -/
def override (env : Environment) (base : Settings) : Except Error Settings := do
  let timeout ← env.number? timeoutKey "timeout"
  let list ← env.number? listIntervalKey "list interval"
  let names ← env.number? namesIntervalKey "names interval"
  .ok
    { base with
      server :=
        { base.server with
          baseUrl := (env.nonBlank? baseUrlKey).getD base.server.baseUrl
          timeoutSeconds := timeout.getD base.server.timeoutSeconds }
      polling :=
        { listSeconds := list.getD base.polling.listSeconds
          namesSeconds := names.getD base.polling.namesSeconds
          enabled := (env.yes? enabledKey).getD base.polling.enabled
          namesNamespace := (env.nonBlank? namespaceKey).getD base.polling.namesNamespace } }

/-- The error of a variable that must be set and is not. -/
def missingError (key : String) : Error :=
  ⟨.config, "Missing required environment variable: " ++ key⟩

/-- Settings from the environment alone, which must give the base URL. -/
def settings (env : Environment) : Except Error Settings :=
  match env.nonBlank? baseUrlKey with
  | some baseUrl => env.override (Settings.ofBaseUrl baseUrl)
  | none => .error (missingError baseUrlKey)

end Environment

end MetricWatch
