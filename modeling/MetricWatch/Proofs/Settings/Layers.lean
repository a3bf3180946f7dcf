import MetricWatch.Settings.Loader
import MetricWatch.Text.NameTable
import MetricWatch.Proofs.Text.Unsigned

/-!
# Layers of settings

The environment lies over the settings of a file, or over the defaults where there is no file. Each
of its six variables decides one setting and nothing else: a text that is not blank, a number or a
word for yes takes the place of the value below, and where there is none the value below stands.
Only a number can be wrong, and the first one that is wrong is the error. The main statement is
`Environment.layers`.
-/

namespace MetricWatch

namespace Environment

variable {env : Environment} {base s : Settings} {key what : String} {e : Error}

/-! ### What variables say -/

/-- The variables that override settings. -/
def overrideKeys : List String :=
  [baseUrlKey, timeoutKey, listIntervalKey, namesIntervalKey, enabledKey, namespaceKey]

/-- Those of them that are numbers, in the order in which they are read, and what errors call them. -/
def numberKeys : List (String × String) :=
  [(timeoutKey, "timeout"), (listIntervalKey, "list interval"), (namesIntervalKey, "names interval")]

/-- A text says itself unless it is blank. -/
def SaysText (t value : String) : Prop := Text.isBlank t = false ∧ value = t

/-- A text says the number that it spells between blanks. -/
def SaysNumber (t : String) (value : UInt64) : Prop := Text.Spells (Text.trim t) value

/-- A text says yes if it is a word for yes in any ASCII case, and no otherwise. -/
def SaysFlag (t : String) (value : Bool) : Prop :=
  value = true ↔ NameTable.lowerCase t ∈ yesWords

/-- Whether a setting is what the text of its variable says, or else what it was before. -/
def Layered {α : Type} (Says : String → α → Prop) (text : Option String) (before after : α) : Prop :=
  (∃ t, text = some t ∧ Says t after) ∨
    (∀ t, text = some t → ∀ value, ¬ Says t value) ∧ after = before

/-- Whether a variable is set to a text that spells no number. -/
def Misspelt (env : Environment) (key : String) : Prop :=
  ∃ t, env.text? key = some t ∧ ∀ n, ¬ SaysNumber t n

/-- Whether an error is about the number that a variable should be. -/
def Blames (env : Environment) (key what : String) (e : Error) : Prop :=
  ∃ t fault, env.text? key = some t ∧ Text.readUnsigned (Text.trim t) = .error fault ∧
    e = ⟨.config, "Invalid " ++ what ++ " in " ++ key ++ ": " ++ fault.message⟩

lemma number?_eq_error : env.number? key what = .error e ↔ env.Blames key what e := by
  unfold number? Blames
  cases env.text? key with
  | none => simp
  | some t =>
    simp only [Option.some.injEq, exists_and_left, exists_eq_left']
    cases Text.readUnsigned (Text.trim t) with
    | ok n => simp
    | error fault => simp [eq_comm]

lemma Blames.misspelt (blames : env.Blames key what e) : env.Misspelt key := by
  obtain ⟨t, fault, isText, read, -⟩ := blames
  refine ⟨t, isText, fun n spells => ?_⟩
  cases read.symm.trans (Text.readUnsigned_eq_ok.mpr spells)

lemma number?_of_misspelt (misspelt : env.Misspelt key) (what : String) :
    ∃ e, env.number? key what = .error e := by
  obtain ⟨t, isText, notSpelt⟩ := misspelt
  cases read : Text.readUnsigned (Text.trim t) with
  | ok n => exact absurd (Text.readUnsigned_eq_ok.mp read) (notSpelt n)
  | error fault => exact ⟨_, number?_eq_error.mpr ⟨t, fault, isText, read, rfl⟩⟩

/-- A number that can be read lies over what was before. -/
lemma layered_number {o : Option UInt64} (read : env.number? key what = .ok o) (before : UInt64) :
    Layered SaysNumber (env.text? key) before (o.getD before) := by
  unfold number? at read
  split at read
  next unset =>
    cases read
    refine .inr ⟨fun t isText => ?_, rfl⟩
    cases unset.symm.trans isText
  next t isText =>
    split at read
    next n spelt =>
      cases read
      exact .inl ⟨t, isText, Text.readUnsigned_eq_ok.mp spelt⟩
    next => cases read

lemma layered_text (env : Environment) (key before : String) :
    Layered SaysText (env.text? key) before ((env.nonBlank? key).getD before) := by
  unfold nonBlank?
  cases env.text? key with
  | none => exact .inr ⟨nofun, rfl⟩
  | some t =>
    cases blank : Text.isBlank t with
    | false => exact .inl ⟨t, rfl, blank, by simp [Text.nonBlank?, blank]⟩
    | true =>
      refine .inr ⟨?_, by simp [Text.nonBlank?, blank]⟩
      rintro _ ⟨⟩ value ⟨notBlank, -⟩
      cases blank.symm.trans notBlank

lemma layered_flag (env : Environment) (key : String) (before : Bool) :
    Layered SaysFlag (env.text? key) before ((env.yes? key).getD before) := by
  unfold yes?
  cases env.text? key with
  | none => exact .inr ⟨nofun, rfl⟩
  | some t => exact .inl ⟨t, rfl, List.contains_iff_mem⟩

/-! ### One layer over another -/

/-- Whether settings are what the environment makes of others: each variable decides one setting,
and what has no variable stays. -/
structure Overridden (env : Environment) (base s : Settings) : Prop where
  baseUrl : Layered SaysText (env.text? baseUrlKey) base.server.baseUrl s.server.baseUrl
  timeout :
    Layered SaysNumber (env.text? timeoutKey) base.server.timeoutSeconds s.server.timeoutSeconds
  maxAttempts : s.server.maxAttempts = base.server.maxAttempts
  listInterval :
    Layered SaysNumber (env.text? listIntervalKey) base.polling.listSeconds s.polling.listSeconds
  namesInterval :
    Layered SaysNumber (env.text? namesIntervalKey) base.polling.namesSeconds s.polling.namesSeconds
  enabled : Layered SaysFlag (env.text? enabledKey) base.polling.enabled s.polling.enabled
  namesNamespace : Layered SaysText (env.text? namespaceKey) base.polling.namesNamespace
    s.polling.namesNamespace
  watch : s.watch = base.watch

/-- Settings with numbers that were read, if any, and with what else the environment says. -/
def layer (env : Environment) (timeout list names : Option UInt64) (base : Settings) : Settings :=
  { base with
    server :=
      { base.server with
        baseUrl := (env.nonBlank? baseUrlKey).getD base.server.baseUrl
        timeoutSeconds := timeout.getD base.server.timeoutSeconds }
    polling :=
      { listSeconds := list.getD base.polling.listSeconds
        namesSeconds := names.getD base.polling.namesSeconds
        enabled := (env.yes? enabledKey).getD base.polling.enabled
        namesNamespace := (env.nonBlank? namespaceKey).getD base.polling.namesNamespace } }

lemma getD_getD {α : Type} (o : Option α) (a : α) : o.getD (o.getD a) = o.getD a := by
  cases o <;> rfl

lemma layer_layer (env : Environment) (timeout list names : Option UInt64) (base : Settings) :
    env.layer timeout list names (env.layer timeout list names base)
      = env.layer timeout list names base := by
  simp only [layer, getD_getD]

/-- The numbers are read one after the other, and the first that is wrong is the error. -/
lemma override_eq (env : Environment) (base : Settings) : env.override base =
    match env.number? timeoutKey "timeout", env.number? listIntervalKey "list interval",
      env.number? namesIntervalKey "names interval" with
    | .error e, _, _ => .error e
    | .ok _, .error e, _ => .error e
    | .ok _, .ok _, .error e => .error e
    | .ok timeout, .ok list, .ok names => .ok (env.layer timeout list names base) := by
  unfold override
  cases env.number? timeoutKey "timeout" with
  | error => rfl
  | ok timeout =>
    cases env.number? listIntervalKey "list interval" with
    | error => rfl
    | ok list =>
      cases env.number? namesIntervalKey "names interval" with
      | error => rfl
      | ok names => rfl

lemma override_eq_ok (overridden : env.override base = .ok s) : ∃ timeout list names,
    env.number? timeoutKey "timeout" = .ok timeout ∧
      env.number? listIntervalKey "list interval" = .ok list ∧
      env.number? namesIntervalKey "names interval" = .ok names ∧
      s = env.layer timeout list names base := by
  rw [override_eq] at overridden
  split at overridden
  · cases overridden
  · cases overridden
  · cases overridden
  next timeout list names isTimeout isList isNames =>
    cases overridden
    exact ⟨timeout, list, names, isTimeout, isList, isNames, rfl⟩

/-- Whether an error is about the first number that is wrong. -/
def BlamesFirst (env : Environment) (e : Error) : Prop :=
  ∃ before key what after, numberKeys = before ++ (key, what) :: after ∧
    (∀ k ∈ before, ¬ env.Misspelt k.1) ∧ env.Blames key what e

lemma not_misspelt {o : Option UInt64} (read : env.number? key what = .ok o) :
    ¬ env.Misspelt key := by
  intro misspelt
  obtain ⟨e, wrong⟩ := number?_of_misspelt misspelt what
  cases read.symm.trans wrong

lemma blamesFirst_of_error (failed : env.override base = .error e) : env.BlamesFirst e := by
  rw [override_eq] at failed
  split at failed
  next _ isTimeout =>
    cases failed
    exact ⟨[], _, _, _, rfl, nofun, number?_eq_error.mp isTimeout⟩
  next _ _ isTimeout isList =>
    cases failed
    refine ⟨[_], _, _, _, rfl, ?_, number?_eq_error.mp isList⟩
    exact List.forall_mem_singleton.mpr (not_misspelt isTimeout)
  next _ _ _ isTimeout isList isNames =>
    cases failed
    refine ⟨[_, _], _, _, _, rfl, ?_, number?_eq_error.mp isNames⟩
    exact List.forall_mem_cons.mpr
      ⟨not_misspelt isTimeout, List.forall_mem_singleton.mpr (not_misspelt isList)⟩
  next => cases failed

/-- Settings can be overridden exactly if no number is wrong. -/
lemma override_succeeds :
    (∃ s, env.override base = .ok s) ↔ ∀ k ∈ numberKeys, ¬ env.Misspelt k.1 := by
  constructor
  · rintro ⟨s, overridden⟩
    obtain ⟨timeout, list, names, isTimeout, isList, isNames, -⟩ := override_eq_ok overridden
    simp only [numberKeys, List.forall_mem_cons]
    exact ⟨not_misspelt isTimeout, not_misspelt isList, not_misspelt isNames, nofun⟩
  · intro allRight
    cases overridden : env.override base with
    | ok s => exact ⟨s, rfl⟩
    | error e =>
      obtain ⟨before, key, what, after, split, -, blames⟩ := blamesFirst_of_error overridden
      refine absurd blames.misspelt (allRight (key, what) ?_)
      rw [split]
      exact List.mem_append_right _ List.mem_cons_self

lemma overridden_of_ok (overridden : env.override base = .ok s) : env.Overridden base s := by
  obtain ⟨timeout, list, names, isTimeout, isList, isNames, rfl⟩ := override_eq_ok overridden
  exact {
    baseUrl := env.layered_text baseUrlKey _
    timeout := layered_number isTimeout _
    maxAttempts := rfl
    listInterval := layered_number isList _
    namesInterval := layered_number isNames _
    enabled := env.layered_flag enabledKey _
    namesNamespace := env.layered_text namespaceKey _
    watch := rfl }

/-- What the environment was laid over once is not changed by it again. -/
lemma override_override (env : Environment) (base : Settings) :
    (env.override base).bind env.override = env.override base := by
  cases overridden : env.override base with
  | error => rfl
  | ok s =>
    obtain ⟨timeout, list, names, isTimeout, isList, isNames, rfl⟩ := override_eq_ok overridden
    change env.override (env.layer timeout list names base) = _
    rw [override_eq, isTimeout, isList, isNames]
    exact congrArg Except.ok (env.layer_layer timeout list names base)

/-- Only the variables that override settings matter. -/
lemma override_congr {other : Environment}
    (same : ∀ key ∈ overrideKeys, other.get? key = env.get? key) (base : Settings) :
    other.override base = env.override base := by
  have text {key : String} (mem : key ∈ overrideKeys) : other.text? key = env.text? key := by
    rw [text?, text?, same key mem]
  have number {key : String} (mem : key ∈ overrideKeys) (what : String) :
      other.number? key what = env.number? key what := by rw [number?, number?, text mem]
  have nonBlank {key : String} (mem : key ∈ overrideKeys) :
      other.nonBlank? key = env.nonBlank? key := by rw [nonBlank?, nonBlank?, text mem]
  have yes : other.yes? enabledKey = env.yes? enabledKey := by
    rw [yes?, yes?, text (by simp [overrideKeys])]
  simp only [override, yes]
  rw [number (by simp [overrideKeys]), number (by simp [overrideKeys]),
    number (by simp [overrideKeys]), nonBlank (by simp [overrideKeys]),
    nonBlank (by simp [overrideKeys])]

/-! ### Files and defaults below the environment -/

/-- The error where neither a file nor the environment says where the interface is. -/
def nowhere : Error :=
  ⟨.config, "No config file found and Missing required environment variable: " ++ baseUrlKey⟩

/-- How the environment lies over other settings. -/
structure Layers (env : Environment) : Prop where
  /-- It can be laid over settings exactly if none of its numbers is wrong. -/
  succeeds : ∀ base,
    (∃ s, env.override base = .ok s) ↔ ∀ k ∈ numberKeys, ¬ env.Misspelt k.1
  /-- The first number that is wrong is the error. -/
  blames : ∀ base e, env.override base = .error e → env.BlamesFirst e
  /-- Each variable decides one setting. -/
  overrides : ∀ base s, env.override base = .ok s → env.Overridden base s
  /-- Laying it over settings again changes nothing. -/
  again : ∀ base, (env.override base).bind env.override = env.override base
  /-- Other variables do not matter. -/
  independent : ∀ other : Environment, (∀ key ∈ overrideKeys, other.get? key = env.get? key) →
    ∀ base, other.override base = env.override base
  /-- With a file the environment lies over what the file holds. -/
  overFile : ∀ files roots path, Loader.probe? files roots = some path →
    Loader.load files roots env = (Loader.ofFile files path).bind env.override
  /-- Without one it lies over the defaults for its base URL, without which nothing else counts. -/
  overDefaults : ∀ files roots, Loader.probe? files roots = none →
    (∀ url, env.text? baseUrlKey = some url → Text.isBlank url = false →
      Loader.load files roots env = env.override (Settings.ofBaseUrl url)) ∧
    ((∀ url, env.text? baseUrlKey = some url → Text.isBlank url = true) →
      Loader.load files roots env = .error nowhere)

lemma nonBlank?_eq_some {t : String} :
    env.nonBlank? key = some t ↔ env.text? key = some t ∧ Text.isBlank t = false := by
  simp only [nonBlank?, Option.bind_eq_some_iff, Text.nonBlank?_eq_some_iff]
  constructor
  · rintro ⟨_, isText, notBlank, rfl⟩
    exact ⟨isText, notBlank⟩
  · rintro ⟨isText, notBlank⟩
    exact ⟨t, isText, notBlank, rfl⟩

/-- The environment lies over a file or the defaults, each of its variables over one setting, and the
first number among them that cannot be read is the error. -/
theorem layers (env : Environment) : Layers env where
  succeeds _ := override_succeeds
  blames _ _ := blamesFirst_of_error
  overrides _ _ := overridden_of_ok
  again := env.override_override
  independent _ := override_congr
  overFile files roots path found := by
    rw [Loader.load, found]
    rfl
  overDefaults files roots none := by
    constructor
    · intro url isText notBlank
      have given := nonBlank?_eq_some.mpr ⟨isText, notBlank⟩
      simp only [Loader.load, none, given, settings]
    · intro blank
      have missing : env.nonBlank? baseUrlKey = Option.none := by
        refine Option.eq_none_iff_forall_ne_some.mpr fun url given => ?_
        obtain ⟨isText, notBlank⟩ := nonBlank?_eq_some.mp given
        cases notBlank.symm.trans (blank url isText)
      simp only [Loader.load, none, missing]
      rfl

end Environment

end MetricWatch
