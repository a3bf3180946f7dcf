import MetricWatch.Proofs.Maps
import MetricWatch.Proofs.Settings.Layers
import Mathlib.Data.List.Infix

/-!
# Values that are not of their form

Four variables have a form: three are numbers, and one is a word for yes or for no. A number that
is a text and cannot be read is the error of the whole environment. Every other value that is not of
its form is passed over: bytes that are no text count as nothing at all, and a text that is no word
for yes counts as a no. The main statement is `Environment.unread`.
-/

namespace MetricWatch

namespace Environment

variable {env : Environment} {base s : Settings} {key what : String} {e : Error}

/-! ### Forms of values -/

/-- The words for no. -/
def noWords : List String := ["0", "false", "no", "off"]

/-- Whether a text spells a number between blanks. -/
def IsNumber (t : String) : Prop := ∃ n, SaysNumber t n

/-- Whether a text is a word for yes or for no in any ASCII case. -/
def IsFlag (t : String) : Prop := NameTable.lowerCase t ∈ yesWords ++ noWords

/-- The variables that have a form, each with its form. -/
def forms : List (String × (String → Prop)) :=
  numberKeys.map (fun k => (k.1, IsNumber)) ++ [(enabledKey, IsFlag)]

/-- Whether a variable is set to bytes that are no text of its form. -/
def Malformed (env : Environment) (key : String) : Prop :=
  ∃ bytes form, env.get? key = some bytes ∧ (key, form) ∈ forms ∧
    ∀ t, Text.Utf8.decode? bytes = some t → ¬ form t

/-- Whether an error says that the settings are wrong and names a variable. -/
def Names (e : Error) (key : String) : Prop := e.kind = .config ∧ key.toList <:+: e.detail.toList

/-- Whether settings are refused if a value is not of its form, with an error that names the
variable of such a value. -/
def Heeds (env : Environment) (base : Settings) : Prop :=
  (∃ key, env.Malformed key) →
    ∃ e key, env.override base = .error e ∧ env.Malformed key ∧ Names e key

/-! ### Values that are refused -/

/-- A number that cannot be read is not of its form. -/
lemma Misspelt.malformed (misspelt : env.Misspelt key) (isNumber : (key, what) ∈ numberKeys) :
    env.Malformed key := by
  obtain ⟨t, isText, notSpelt⟩ := misspelt
  obtain ⟨bytes, isSet, decoded⟩ := Option.bind_eq_some_iff.mp isText
  refine ⟨bytes, IsNumber, isSet, ?_, ?_⟩
  · exact List.mem_append_left _ (List.mem_map_of_mem (f := fun k => (k.1, IsNumber)) isNumber)
  · rintro t' decoded' ⟨n, spelt⟩
    obtain rfl := Option.some.inj (decoded.symm.trans decoded')
    exact notSpelt n spelt

lemma Blames.names (blames : env.Blames key what e) : Names e key := by
  obtain ⟨t, fault, -, -, rfl⟩ := blames
  refine ⟨rfl, ("Invalid " ++ what ++ " in ").toList, (": " ++ fault.message).toList, ?_⟩
  simp only [String.toList_append, List.append_assoc]

/-- Whatever settings are refused for is a value that is not of its form. -/
lemma named_of_error (failed : env.override base = .error e) :
    ∃ key, env.Malformed key ∧ Names e key := by
  obtain ⟨before, key, what, after, split, -, blames⟩ := blamesFirst_of_error failed
  have isNumber : (key, what) ∈ numberKeys := split ▸ List.mem_append_right _ List.mem_cons_self
  exact ⟨key, blames.misspelt.malformed isNumber, blames.names⟩

lemma override_fails :
    (∃ e, env.override base = .error e) ↔ ∃ k ∈ numberKeys, env.Misspelt k.1 := by
  have succeeds : (∃ s, env.override base = .ok s) ↔ ∀ k ∈ numberKeys, ¬ env.Misspelt k.1 :=
    override_succeeds
  constructor
  · rintro ⟨e, failed⟩
    by_contra none
    obtain ⟨s, overridden⟩ := succeeds.mpr fun k mem misspelt => none ⟨k, mem, misspelt⟩
    cases failed.symm.trans overridden
  · rintro ⟨k, mem, misspelt⟩
    cases overridden : env.override base with
    | error e => exact ⟨e, rfl⟩
    | ok s => exact absurd misspelt (succeeds.mp ⟨s, overridden⟩ k mem)

/-- Values that are not of their form are heeded exactly if a number among them is a text. -/
lemma heeds_iff : env.Heeds base ↔
    ((∃ key, env.Malformed key) → ∃ k ∈ numberKeys, env.Misspelt k.1) := by
  have fails : (∃ e, env.override base = .error e) ↔ ∃ k ∈ numberKeys, env.Misspelt k.1 :=
    override_fails
  rw [← fails]
  constructor
  · intro heeds malformed
    obtain ⟨e, key, failed, -⟩ := heeds malformed
    exact ⟨e, failed⟩
  · intro refuses malformed
    obtain ⟨e, failed⟩ := refuses malformed
    obtain ⟨key, malformed, names⟩ := named_of_error failed
    exact ⟨e, key, failed, malformed, names⟩

/-! ### Values that are passed over -/

/-- Bytes that are no text count as nothing. -/
lemma override_erase {bytes : List UInt8} (isSet : env.get? key = some bytes)
    (garbled : Text.Utf8.decode? bytes = none) (base : Settings) :
    Environment.override (env.erase key) base = env.override base := by
  have text (other : String) : Environment.text? (env.erase key) other = env.text? other := by
    rw [text?, text?, Json.Members.get?_erase]
    split
    next same => rw [← same, isSet, Option.bind_some, garbled, Option.bind_none]
    next => rfl
  simp only [override, number?, nonBlank?, yes?, text]

/-- A text that is no word for yes is a no. -/
lemma disabled_of_ok {t : String} (isText : env.text? enabledKey = some t)
    (noYes : NameTable.lowerCase t ∉ yesWords) (overridden : env.override base = .ok s) :
    s.polling.enabled = false := by
  rcases (overridden_of_ok overridden).enabled with ⟨t', isText', isYes⟩ | ⟨silent, -⟩
  · obtain rfl := Option.some.inj (isText.symm.trans isText')
    exact Bool.eq_false_iff.mpr fun enabled => noYes (isYes.mp enabled)
  · refine absurd ?_ (silent t isText false)
    exact iff_of_false Bool.false_ne_true noYes

/-! ### The main statement -/

/-- What becomes of values that are not of their form. -/
structure Unread (env : Environment) : Prop where
  /-- Settings are refused exactly if some number is a text that cannot be read, -/
  refused_iff : ∀ base,
    (∃ e, env.override base = .error e) ↔ ∃ k ∈ numberKeys, env.Misspelt k.1
  /-- and the error names the variable of a value that is not of its form. -/
  named : ∀ base e, env.override base = .error e → ∃ key, env.Malformed key ∧ Names e key
  /-- So other values that are not of their form are heeded only beside such a number. -/
  heeded_iff : ∀ base, env.Heeds base ↔
    ((∃ key, env.Malformed key) → ∃ k ∈ numberKeys, env.Misspelt k.1)
  /-- Bytes that are no text leave a setting as if their variable were not set, -/
  ignored : ∀ key bytes, env.get? key = some bytes → Text.Utf8.decode? bytes = none →
    ∀ base, Environment.override (env.erase key) base = env.override base
  /-- and a text that is neither a yes nor a no turns polling off. -/
  disabled : ∀ t, env.text? enabledKey = some t → ¬ IsFlag t →
    ∀ base s, env.override base = .ok s → s.polling.enabled = false

/-- Values that are not of their form fail the environment only if they are texts in the place of
numbers; all others are passed over. -/
theorem unread (env : Environment) : Unread env where
  refused_iff _ := override_fails
  named _ _ := named_of_error
  heeded_iff _ := heeds_iff
  ignored _ _ isSet garbled := override_erase isSet garbled
  disabled _ isText noFlag _ _ :=
    disabled_of_ok isText fun isYes => noFlag (List.mem_append_left noWords isYes)

/-- The text "maybe" turns polling off, and bytes that are no text leave the time limit as it is:
neither is refused. -/
theorem passed_over :
    let base := Settings.ofBaseUrl "http://h"
    let vague : Environment := [(enabledKey, [0x6d, 0x61, 0x79, 0x62, 0x65])]
    let garbled : Environment := [(timeoutKey, [0x33, 0xff])]
    (vague.Malformed enabledKey ∧
      vague.override base = .ok { base with polling := { base.polling with enabled := false } } ∧
      ¬ vague.Heeds base) ∧
    garbled.Malformed timeoutKey ∧ garbled.override base = .ok base ∧ ¬ garbled.Heeds base := by
  intro base vague garbled
  have isVague : vague.Malformed enabledKey := by
    have decoded : Text.Utf8.decode? [0x6d, 0x61, 0x79, 0x62, 0x65] = some "maybe" := by decide
    refine ⟨_, IsFlag, rfl, List.mem_append_right _ List.mem_cons_self, fun t isText => ?_⟩
    obtain rfl := Option.some.inj (decoded.symm.trans isText)
    unfold IsFlag
    decide
  have isGarbled : garbled.Malformed timeoutKey := by
    have noText : Text.Utf8.decode? [0x33, 0xff] = none := by decide
    refine ⟨_, IsNumber, rfl, List.mem_append_left _ List.mem_cons_self, fun t isText => ?_⟩
    cases noText.symm.trans isText
  have disables : vague.override base
      = .ok { base with polling := { base.polling with enabled := false } } := by
    decide +kernel
  have keeps : garbled.override base = .ok base := by decide +kernel
  refine ⟨⟨isVague, disables, fun heeds => ?_⟩, isGarbled, keeps, fun heeds => ?_⟩
  · obtain ⟨e, key, failed, -⟩ := heeds ⟨_, isVague⟩
    cases failed.symm.trans disables
  · obtain ⟨e, key, failed, -⟩ := heeds ⟨_, isGarbled⟩
    cases failed.symm.trans keeps

end Environment

end MetricWatch
