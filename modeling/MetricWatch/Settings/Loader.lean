import MetricWatch.Settings.Environment
import MetricWatch.Settings.Files
import MetricWatch.Toml.Document

/-!
# Loading settings

Settings come from a file that is named, or from the first file found in the standard locations,
or from the environment alone; the environment overrides the file.
-/

namespace MetricWatch.Loader

open Json (Fault)

/-! ### Contents of files -/

/-- The settings that a JSON text holds. -/
def ofJson (text : String) : Except Error Settings :=
  match Settings.form.ofText text with
  | .ok s => .ok s
  | .error f => .error ⟨.config, "Invalid JSON format: " ++ f.message⟩

/-- Why a TOML text is refused, without the lines of it that the cause is shown in. -/
def tomlComplaint : Fault → String
  | .malformed => "invalid TOML"
  | f => f.message

/-- The settings that a TOML text holds. -/
def ofToml (text : String) : Except Error Settings :=
  let read : Except Fault Settings := do
    let tree ← match Toml.read? text with
      | some tree => .ok tree
      | none => .error .malformed
    let d ← Settings.form.shape.reader .table Json.nestingLimit tree
    Settings.form.resolve d
  match read with
  | .ok s => .ok s
  | .error f => .error ⟨.config, "Invalid TOML format: " ++ tomlComplaint f⟩

/-- The settings that a text holds, in the format that the extension of its path names. -/
def ofText (path text : String) : Except Error Settings :=
  match (extension? path).getD "json" with
  | "toml" => ofToml text
  | "json" => ofJson text
  | other => .error ⟨.config, "Unsupported config format: " ++ other⟩

/-- The text that an existing path holds, or why there is none. -/
def textOf : FileEntry → Except String String
  | .file bytes =>
    match Text.Utf8.decode? bytes with
    | some text => .ok text
    | none => .error "stream did not contain valid UTF-8"
  | .directory => .error "Is a directory (os error 21)"

/-- The settings that an existing path holds. -/
def ofEntry (path : String) (entry : FileEntry) : Except Error Settings :=
  match textOf entry with
  | .ok text => ofText path text
  | .error cause => .error ⟨.config, "Failed to read config file: " ++ cause⟩

/-- The settings that a named file holds. -/
def ofFile (files : Files) (path : String) : Except Error Settings :=
  match files.lookUp? path with
  | some entry => ofEntry path entry
  | none => .error ⟨.config, "Config file not found: " ++ path⟩

/-! ### Standard locations -/

/-- The names of settings files, the preferred first. -/
def fileNames : List String :=
  ["config", "clusterwatch"].flatMap fun stem =>
    ["json", "toml"].map fun extension => stem ++ "." ++ extension

/-- Where settings files are looked for from a directory: there and in two directories above. -/
def candidatesIn (root : String) : List String :=
  [root, Files.join root "..", Files.join root "../.."].flatMap fun dir =>
    fileNames.map (Files.join dir)

/-- The first standard location at which something is, from some root directories. -/
def probe? (files : Files) (roots : List String) : Option String :=
  (roots.flatMap candidatesIn).find? files.holds

/-- The settings of the first standard location at which something is. -/
def ofProbed (files : Files) (roots : List String) : Except Error Settings :=
  match probe? files roots with
  | some path => ofFile files path
  | none => .error ⟨.config, "No config file found in any of the standard locations"⟩

/-- The settings of the first standard location overridden by the environment, or those of the
environment alone. -/
def load (files : Files) (roots : List String) (env : Environment) : Except Error Settings :=
  match probe? files roots with
  | some path => do
    let base ← ofFile files path
    env.override base
  | none =>
    match env.nonBlank? Environment.baseUrlKey with
    | some _ => env.settings
    | none =>
      .error ⟨.config,
        "No config file found and " ++ (Environment.missingError Environment.baseUrlKey).detail⟩

end MetricWatch.Loader
