import MetricWatch.Proofs.Cluster.Texts
import MetricWatch.Proofs.Json.Omissions
import MetricWatch.Proofs.Json.Unknown
import MetricWatch.Settings.Loader

/-!
# Settings with members left out

All members of the settings are optional but the server and its base URL. Whichever of them a text
leaves out, and whatever else it has that settings do not know, it is read as the settings with just
these members as in settings made without a text: the values of single members that are not given
agree with those of whole sections. The main statement is `Settings.completed`.
-/

namespace MetricWatch

open Json (Value Members Datum Shape Fields Form nestingLimit)

variable {cut : List String → Bool} {room : Nat}

/-! ### Two ways to a value of which nothing is said -/

/-- The members of a server that are not given are those of a server made from a base URL. -/
lemma ServerSettings.ofBaseUrl_eq_absent (baseUrl : String) : ofBaseUrl baseUrl =
    ⟨baseUrl, Settings.Absent.timeoutSeconds, Settings.Absent.maxAttempts⟩ := rfl

/-- The members of polling that are not given are those of standard polling. -/
lemma PollingSettings.standard_eq_absent : standard =
    ⟨Settings.Absent.listSeconds, Settings.Absent.namesSeconds, Settings.Absent.enabled,
      Settings.Absent.namesNamespace⟩ := rfl

/-- The members of watched metrics that are not given are those of nothing watched. -/
lemma WatchSettings.nothing_eq_absent : nothing =
    ⟨Settings.Absent.anywhere, Settings.Absent.nodes⟩ := rfl

/-! ### Settings without some members -/

/-- Server settings without some members, which are as for a server made from the same URL. -/
def ServerSettings.without (s : ServerSettings) (cut : List String → Bool) : ServerSettings :=
  let new := ofBaseUrl s.baseUrl
  { baseUrl := s.baseUrl
    timeoutSeconds := if cut ["timeout_seconds"] then new.timeoutSeconds else s.timeoutSeconds
    maxAttempts := if cut ["max_attempts"] then new.maxAttempts else s.maxAttempts }

/-- Polling settings without some members, which are the standard ones. -/
def PollingSettings.without (p : PollingSettings) (cut : List String → Bool) : PollingSettings where
  listSeconds := if cut ["list_interval_seconds"] then standard.listSeconds else p.listSeconds
  namesSeconds := if cut ["names_interval_seconds"] then standard.namesSeconds else p.namesSeconds
  enabled := if cut ["enabled"] then standard.enabled else p.enabled
  namesNamespace := if cut ["namespace"] then standard.namesNamespace else p.namesNamespace

/-- Watched metrics without some members, which are none. -/
def WatchSettings.without (w : WatchSettings) (cut : List String → Bool) : WatchSettings where
  anywhere := if cut ["global"] then nothing.anywhere else w.anywhere
  nodes := if cut ["nodes"] then nothing.nodes else w.nodes

/-- Settings without the members at some paths of keys. -/
def Settings.without (s : Settings) (cut : List String → Bool) : Settings where
  server := s.server.without fun path => cut ("server" :: path)
  polling :=
    if cut ["polling"] then .standard else s.polling.without fun path => cut ("polling" :: path)
  watch := if cut ["watch"] then .nothing else s.watch.without fun path => cut ("watch" :: path)

/-- The paths of the members that settings may be given without. -/
def Settings.optional : List (List String) :=
  [["server", "timeout_seconds"], ["server", "max_attempts"],
    ["polling"], ["polling", "list_interval_seconds"], ["polling", "names_interval_seconds"],
    ["polling", "enabled"], ["polling", "namespace"],
    ["watch"], ["watch", "global"], ["watch", "nodes"]]

/-! ### Values without some members -/

/-- Whether members are left out of records only, and not of what stands in them. -/
def IsFlat (cut : List String → Bool) : Prop := ∀ key key' path, cut (key :: key' :: path) = false

lemma ServerSettings.reads_without (s : ServerSettings) (flat : IsFlat cut)
    (needed : cut ["base_url"] = false) (room : Nat) :
    form.shape.reader .value room ((form.toValue s).without cut).toTree
      = .ok (form.toDatum (s.without cut)) := by
  refine Fields.Abridged.reader_without (by decide) s.returns.keeps.proper ?_ room
  rw [without, ofBaseUrl_eq_absent]
  refine .given needed nofun (Form.Returns.reads_without (.text s.baseUrl) (flat _)) ?_
  refine .leaf (.nat64 "u64") Settings.Absent.timeoutSeconds (.nat64 _) (flat _) ?_
  exact .leaf (.nat64 "usize") Settings.Absent.maxAttempts (.nat64 _) (flat _) .done

lemma PollingSettings.reads_without (p : PollingSettings) (flat : IsFlat cut) (room : Nat) :
    form.shape.reader .value room ((form.toValue p).without cut).toTree
      = .ok (form.toDatum (p.without cut)) := by
  have flag : Form.bool.Returns p.enabled := ⟨.bool _, rfl⟩
  refine Fields.Abridged.reader_without (by decide) p.returns.keeps.proper ?_ room
  rw [without, standard_eq_absent]
  refine .leaf (.nat64 "u64") Settings.Absent.listSeconds (.nat64 _) (flat _) ?_
  refine .leaf (.nat64 "u64") Settings.Absent.namesSeconds (.nat64 _) (flat _) ?_
  refine .leaf .bool Settings.Absent.enabled flag (flat _) ?_
  exact .leaf .text Settings.Absent.namesNamespace (.text _) (flat _) .done

lemma WatchSettings.reads_without {w : WatchSettings} (sorted : Members.Sorted w.nodes)
    (flat : IsFlat cut) (room : Nat) :
    form.shape.reader .value room ((form.toValue w).without cut).toTree
      = .ok (form.toDatum (w.without cut)) := by
  have nodes : (Form.members (Form.list .text)).Returns w.nodes :=
    .members sorted fun e _ => returns_texts e.2
  refine Fields.Abridged.reader_without (by decide) (returns sorted).keeps.proper ?_ room
  rw [without, nothing_eq_absent]
  refine .leaf (.list .text) Settings.Absent.anywhere (returns_texts _) (flat _) ?_
  exact .leaf (.members (.list .text)) Settings.Absent.nodes nodes (flat _) .done

namespace Settings

variable {s : Settings}

/-- Whether only optional members are left out. -/
def Spares (cut : List String → Bool) : Prop := ∀ path, cut path = true → path ∈ optional

lemma Spares.of_notMem (spares : Spares cut) {path : List String} (needed : path ∉ optional) :
    cut path = false :=
  Bool.eq_false_iff.mpr fun isCut => needed (spares path isCut)

/-- No optional member stands deeper than in a section. -/
lemma Spares.flat (spares : Spares cut) (key : String) : IsFlat fun path => cut (key :: path) :=
  fun _ _ _ => spares.of_notMem (by simp [optional])

lemma reads_without (sorted : Members.Sorted s.watch.nodes) (spares : Spares cut) (room : Nat) :
    form.shape.reader .value room ((form.toValue s).without cut).toTree
      = .ok (form.toDatum (s.without cut)) := by
  refine Fields.Abridged.reader_without (by decide) (returns sorted).keeps.proper ?_ room
  refine .given (spares.of_notMem (by decide)) nofun (s.server.reads_without (spares.flat _)
    (spares.of_notMem (by decide))) ?_
  refine .default PollingSettings.form Absent.polling
    (fun _ => s.polling.reads_without (spares.flat _)) ?_
  exact .default WatchSettings.form Absent.watch
    (fun _ => WatchSettings.reads_without sorted (spares.flat _)) .done

lemma sorted_without (sorted : Members.Sorted s.watch.nodes) :
    Members.Sorted (s.without cut).watch.nodes := by
  unfold without WatchSettings.without
  dsimp only
  split
  · exact .nil
  · dsimp only
    split
    · exact .nil
    · exact sorted

/-- Settings are read from their value without some optional members as settings without them. -/
theorem ofValue_without (sorted : Members.Sorted s.watch.nodes) (spares : Spares cut) :
    form.ofValue ((form.toValue s).without cut) = .ok (s.without cut) :=
  (Form.ofValue_eq_ok nestingLimit).mpr
    ⟨_, reads_without sorted spares _, (returns (sorted_without sorted)).known⟩

end Settings

/-! ### What must be given -/

lemma ServerSettings.unread_without (s : ServerSettings) (lacking : cut ["base_url"] = true)
    {d : Datum} : form.shape.reader .value room ((form.toValue s).without cut).toTree ≠ .ok d :=
  Shape.unread_without (by decide) s.returns.keeps.proper List.mem_cons_self (.inl lacking)

namespace Settings

variable {s : Settings}

lemma unread_without (sorted : Members.Sorted s.watch.nodes)
    (lacking : cut ["server"] = true ∨ cut ["server", "base_url"] = true) {d : Datum} :
    form.shape.reader .value room ((form.toValue s).without cut).toTree ≠ .ok d := by
  refine Shape.unread_without (by decide) (returns sorted).keeps.proper List.mem_cons_self
    (lacking.imp_right fun lacking v d found => ?_)
  have written : Json.Absence.required ≠ .omitted := nofun
  rw [Fields.need, Fields.get?_writeParts written, if_pos rfl] at found
  obtain rfl := Option.some.inj found
  exact s.server.unread_without lacking

/-! ### Sections -/

/-- To leave a section out is to give it as an empty object. -/
lemma reader_section {key : String} (isSection : key ∈ ["polling", "watch"])
    {entries : Members Value} (sorted : Members.Sorted entries)
    (absent : Members.get? entries key = none) {d : Datum} :
    form.shape.reader .value room (Value.object (entries.put key (.object []))).toTree = .ok d ↔
      form.shape.reader .value room (Value.object entries).toTree = .ok d := by
  have polling (room : Nat) : PollingSettings.form.shape.reader .value room (Value.object []).toTree
      = .ok (PollingSettings.form.toDatum Absent.polling) := rfl
  have watch (room : Nat) : WatchSettings.form.shape.reader .value room (Value.object []).toTree
      = .ok (WatchSettings.form.toDatum Absent.watch) := rfl
  refine Shape.reader_put (by decide) sorted absent fun f mem own room d => ?_
  rcases List.mem_cons.mp mem with rfl | mem
  · subst own
    simp at isSection
  rcases List.mem_cons.mp mem with rfl | mem
  · exact Eq.congr_left (polling room)
  · obtain rfl := List.mem_singleton.mp mem
    exact Eq.congr_left (watch room)

end Settings

/-! ### Loading -/

namespace Loader

variable {text : String} {s : Settings}

lemma ofJson_eq_ok : ofJson text = .ok s ↔ Settings.form.ofText text = .ok s := by
  unfold ofJson
  cases Settings.form.ofText text <;> simp

/-- Settings that cannot be read are an error of the configuration. -/
lemma exists_error_of_ofJson (unread : ∀ s, ofJson text ≠ .ok s) :
    ∃ detail, ofJson text = .error ⟨.config, detail⟩ := by
  unfold ofJson at unread ⊢
  cases read : Settings.form.ofText text with
  | ok s => exact absurd (by rw [read]) (unread s)
  | error f => exact ⟨_, rfl⟩

/-- A text that holds a value is loaded as what is read from the value. -/
lemma ofJson_of_holds {v : Value} (holds : Settings.form.shape.Holds text v) :
    ofJson text = .ok s ↔ Settings.form.ofValue v = .ok s :=
  ofJson_eq_ok.trans (holds.ofText_eq_ok (by decide))

end Loader

/-! ### The main statement -/

namespace Settings

/-- What is read where members of some settings are left out, whatever else there is that settings
do not know. -/
structure Completed (s : Settings) : Prop where
  /-- Without some of the optional members a text is read as the settings with these members as in
  settings made without a text; -/
  filled : ∀ cut text, Spares cut → form.shape.Holds text ((form.toValue s).without cut) →
    Loader.ofJson text = .ok (s.without cut)
  /-- without none of them, as the settings themselves, -/
  whole : ∀ cut, (∀ path ∈ optional, cut path = false) → s.without cut = s
  /-- and without all of them, as what the base URL alone makes. -/
  least : ∀ cut, (∀ path ∈ optional, cut path = true) → s.without cut = ofBaseUrl s.server.baseUrl
  /-- To leave out a section is to give it as an empty object, whatever the text says otherwise. -/
  sections : ∀ key ∈ ["polling", "watch"], ∀ text text' entries s',
    Members.get? entries key = none → form.shape.Holds text (.object entries) →
    form.shape.Holds text' (.object (entries.put key (.object []))) →
      (Loader.ofJson text = .ok s' ↔ Loader.ofJson text' = .ok s')
  /-- A text without the server or its base URL is refused, whatever else it lacks. -/
  refused : ∀ cut text, cut ["server"] = true ∨ cut ["server", "base_url"] = true →
    form.shape.Holds text ((form.toValue s).without cut) →
      ∃ detail, Loader.ofJson text = .error ⟨.config, detail⟩

/-- Settings are completed as settings are made without a text. -/
theorem completed {s : Settings} (sorted : Members.Sorted s.watch.nodes) : s.Completed where
  filled cut text spares holds :=
    (Loader.ofJson_of_holds holds).mpr (ofValue_without sorted spares)
  whole cut kept := by
    simp only [optional, List.forall_mem_cons] at kept
    simp only [without, ServerSettings.without, PollingSettings.without, WatchSettings.without,
      kept, if_false, Bool.false_eq_true]
  least cut left := by
    simp only [optional, List.forall_mem_cons] at left
    simp only [without, ServerSettings.without, left, if_true, ofBaseUrl, ServerSettings.ofBaseUrl]
  sections key isSection text text' entries s' absent holds holds' := by
    rw [Loader.ofJson_of_holds holds, Loader.ofJson_of_holds holds',
      Form.ofValue_eq_ok nestingLimit, Form.ofValue_eq_ok nestingLimit]
    simp only [reader_section isSection holds.sorted absent]
  refused cut text lacking holds := by
    refine Loader.exists_error_of_ofJson fun s' read => ?_
    obtain ⟨d, read, -⟩ :=
      (Form.ofValue_eq_ok nestingLimit).mp ((Loader.ofJson_of_holds holds).mp read)
    exact unread_without sorted lacking read

/-- A text with members that settings do not know, and without the number of attempts, the namespace
and all that is watched. -/
theorem completed_among_unknown :
    let s : Settings :=
      { server := { baseUrl := "http://h/api", timeoutSeconds := 5, maxAttempts := 7 }
        polling :=
          { listSeconds := 2, namesSeconds := 30, enabled := false, namesNamespace := "jvm" }
        watch := { anywhere := ["a"], nodes := [("n1", ["b"])] } }
    let cut (path : List String) : Bool :=
      decide (path ∈ [["server", "max_attempts"], ["polling", "namespace"], ["watch"]])
    let said : Value := .object
      [("polling", .object [("enabled", .bool false), ("jitter", .null),
          ("list_interval_seconds", .number (.nat 2)),
          ("names_interval_seconds", .number (.nat 30))]),
        ("server", .object [("base_url", .string "http://h/api"),
          ("timeout_seconds", .number (.nat 5)), ("tls", .object [])]),
        ("version", .number (.nat 2))]
    (Members.Sorted s.watch.nodes ∧ s.Completed) ∧
      form.shape.Holds said.toText ((form.toValue s).without cut) ∧
      Loader.ofJson said.toText = .ok
        { server := { baseUrl := "http://h/api", timeoutSeconds := 5, maxAttempts := 3 }
          polling :=
            { listSeconds := 2, namesSeconds := 30, enabled := false, namesNamespace := "org" }
          watch := { anywhere := [], nodes := [] } } := by
  intro s cut said
  have sorted : Members.Sorted s.watch.nodes := by decide
  have each : ∀ path ∈ [["server", "max_attempts"], ["polling", "namespace"], ["watch"]],
      path ∈ optional := by decide
  have spares : Spares cut := fun path isCut => each path (of_decide_eq_true isCut)
  have scanned : Json.Document.ofString said.toText = ⟨said.toTree, true⟩ := by
    rw [Json.Document.ofString, Value.toText, String.toList_ofList, ← Value.print_toTree,
      Json.Tree.scan_print (by decide)]
  have holds : form.shape.Holds said.toText ((form.toValue s).without cut) := by
    refine ⟨?_, ?_, ?_, ?_⟩ <;> rw [scanned]
    · exact Value.intact_toTree said
    · rfl
    · decide
  exact ⟨⟨sorted, completed sorted⟩, holds,
    (completed sorted).filled cut said.toText spares holds⟩

end Settings

end MetricWatch
