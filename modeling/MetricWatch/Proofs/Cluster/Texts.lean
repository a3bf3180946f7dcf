import MetricWatch.Proofs.Json.Texts
import MetricWatch.Settings.Basic
import Mathlib.Data.List.Induction

/-!
# Requests, listings, errors and settings as texts

What the cluster is asked, what it lists, the errors of the watch and its settings are read again
from their texts as they were, whatever their strings hold and however large their numbers are. A
listing that is read from any text has the name of each of its entries, in order. The main statement
is `texts_read_again`.
-/

namespace MetricWatch.Json

/-! ### Records of one part -/

variable {t : Tree} {key : String} {route : Route} {room : Nat} {d : Datum}

/-- What stands in a text for the only part of a record: under its key, the last of equal keys
winning, or alone in an array. -/
def Tree.only? (key : String) : Tree → Option Tree
  | .object members _ => (members.reverse.find? fun m => m.1 = .text key).map Prod.snd
  | .array [t] _ => some t
  | _ => none

/-- The elements of an array. -/
def Tree.items? : Tree → Option (List Tree)
  | .array items _ => some items
  | _ => none

/-- The text of a string. -/
def Tree.text? : Tree → Option String
  | .string s => s
  | _ => none

/-- The last of equal keys is the one that a map holds. -/
lemma Tree.only?_object {members : Members Tree} {e : Ending} :
    (Tree.object (named members) e).only? key = Members.get? (Members.ofList members) key := by
  rw [only?]
  induction members using List.reverseRecOn with
  | nil => rfl
  | append_singleton members m ih =>
    have later : Members.ofList (members ++ [m]) = (Members.ofList members).put m.1 m.2 :=
      List.foldl_append
    rw [later, Members.get?_put, ← ih, named, List.map_append, List.reverse_append,
      List.map_singleton, List.reverse_singleton, List.singleton_append, List.find?_cons]
    by_cases own : m.1 = key
    · simp [own]
    · simp [own, named]

/-- A record with one part that must be given is read from what stands for it. -/
lemma readRecord_only {field : FieldReader} {title : String} (required : field.absence = .required)
    (read : readRecord .text title [field] room t = .ok d) :
    ∃ inside found d', t.only? field.key = some found ∧ field.read inside found = .ok d' ∧
      d = .record [d'] := by
  cases t with
  | object ms ending =>
    obtain ⟨inside, -, read⟩ := bind_eq_ok.mp read
    obtain ⟨filled, fills, read⟩ := bind_eq_ok.mp read
    obtain ⟨_, -, read⟩ := bind_eq_ok.mp read
    obtain ⟨ds, closes, ⟨⟩⟩ := bind_eq_ok.mp read
    obtain ⟨members, rfl⟩ := fillSlots_named fills
    obtain ⟨slots, rfl, takes⟩ := fillSlots_takes (by simp) fills
    have takes := takes field List.mem_cons_self
    rw [← Tree.only?_object (e := ending)] at takes
    rw [List.map_cons, List.map_nil] at closes
    generalize (Tree.object _ ending).only? field.key = found at takes ⊢
    cases found with
    | none =>
      have isNone : slots field.key = none := takes
      rw [isNone, closeSlots, FieldReader.whenAbsent, required] at closes
      cases closes
    | some t =>
      obtain ⟨d, isPart, isSlot⟩ := takes
      rw [isSlot] at closes
      cases closes
      exact ⟨inside, t, d, rfl, isPart, rfl⟩
  | array items ending =>
    obtain ⟨inside, -, read⟩ := bind_eq_ok.mp read
    obtain ⟨⟨ds, surplus⟩, isParts, read⟩ := bind_eq_ok.mp read
    obtain ⟨_, none, ⟨⟩⟩ := bind_eq_ok.mp read
    cases items with
    | nil =>
      obtain ⟨_, -, isParts⟩ := bind_eq_ok.mp isParts
      rw [required] at isParts
      cases isParts
    | cons t rest =>
      obtain ⟨d, isPart, isParts⟩ := bind_eq_ok.mp isParts
      cases isParts
      cases surplus with
      | nil => exact ⟨inside, t, d, rfl, isPart, rfl⟩
      | cons => cases none
  | _ => cases read

end MetricWatch.Json

namespace MetricWatch

open Json (Value Tree Key Datum Shape Fields Form Members Reader FieldReader Route)

/-! ### Parts that may be left out -/

section

variable {α : Type} {form : Form α} {o : Option α} (each : ∀ a, form.Returns a)
  (isSome : ∀ a, form.toDatum a ≠ .none ∧ form.toValue a ≠ .null)

include each isSome

lemma returns_nullable : (Form.nullable form).Returns o := by
  cases o with
  | none => exact .none
  | some a => exact .some (each a) (isSome a).1 (isSome a).2

/-- A part that may be left out is written if it is something. -/
lemma keeps_may {key : String} {rest : Fields} {ds : List Datum} (others : rest.Keeps ds) :
    (Fields.may key form.shape rest).Keeps ((Form.nullable form).toDatum o :: ds) := by
  have keeps := (returns_nullable (o := o) each isSome).keeps
  cases o with
  | none => exact .left others
  | some a => exact .field keeps (fun _ => (isSome a).1) others

end

lemma returns_texts (names : List String) : (Form.list .text).Returns names :=
  .list fun s _ => .text s

/-! ### Requests and listings -/

lemma MetricsRequest.returns (r : MetricsRequest) : form.Returns r := by
  have metrics := returns_texts r.metrics
  refine ⟨.record (by decide) (.field metrics.keeps nofun .done), ?_⟩
  simp only [form, metrics.known, bind, Option.bind_some]

lemma NameEntry.returns (e : NameEntry) : form.Returns e := by
  cases e with
  | bare name => exact ⟨.first (.text name), rfl⟩
  | described name =>
    have keeps : (Shape.object "MetricNameEntry" (.need "full_name" .text .done)).Keeps
        (.record [.text name]) := .object (by decide) (.field (.text name) nofun .done)
    exact ⟨.second keeps fun _ _ => nofun, rfl⟩

lemma NamesAnswer.returns (a : NamesAnswer) : form.Returns a := by
  have entries : (Form.list NameEntry.form).Returns a.entries := .list fun e _ => e.returns
  refine ⟨.record (by decide) (.field entries.keeps nofun .done), ?_⟩
  simp only [form, entries.known, bind, Option.bind_some]

lemma ClusterNode.returns (n : ClusterNode) : form.Returns n := by
  have isSome (s : String) : Form.text.toDatum s ≠ .none ∧ Form.text.toValue s ≠ .null :=
    ⟨nofun, nofun⟩
  have hostname := returns_nullable (o := n.hostname) .text isSome
  have address := returns_nullable (o := n.address) .text isSome
  refine ⟨.record (by decide) (.field (.text n.id) nofun <| keeps_may .text isSome <|
    keeps_may .text isSome <| .field (.bool n.isLeader) nofun .done), ?_⟩
  simp only [form, hostname.known, address.known, bind, Option.bind_some]

lemma NodesAnswer.returns (a : NodesAnswer) : form.Returns a := by
  have isSome (n : UInt64) : (Form.nat64 "usize").toDatum n ≠ .none ∧
      (Form.nat64 "usize").toValue n ≠ .null := ⟨nofun, nofun⟩
  have nodes : (Form.list ClusterNode.form).Returns a.nodes := .list fun n _ => n.returns
  have total := returns_nullable (o := a.total) .nat64 isSome
  refine ⟨.record (by decide) (.field nodes.keeps nofun <| keeps_may .nat64 isSome .done), ?_⟩
  simp only [form, nodes.known, total.known, bind, Option.bind_some]

/-! ### Errors -/

lemma Error.returns (e : Error) : form.Returns e := by
  have known : e.kind.name ∈ ErrorKind.all.map ErrorKind.name := by cases e.kind <;> decide
  refine ⟨.tagged (by decide) known (.text e.detail), ?_⟩
  simp only [form, ErrorKind.ofName?_name, Option.map_some]

/-! ### Settings -/

lemma ServerSettings.returns (s : ServerSettings) : form.Returns s := by
  have timeout : (Form.nat64 "u64").Returns s.timeoutSeconds := .nat64 _
  have attempts : (Form.nat64 "usize").Returns s.maxAttempts := .nat64 _
  refine ⟨.record (by decide) (.field (.text s.baseUrl) nofun <|
    .field timeout.keeps nofun <| .field attempts.keeps nofun .done), ?_⟩
  simp only [form, timeout.known, attempts.known, bind, Option.bind_some]

lemma PollingSettings.returns (p : PollingSettings) : form.Returns p := by
  have list : (Form.nat64 "u64").Returns p.listSeconds := .nat64 _
  have names : (Form.nat64 "u64").Returns p.namesSeconds := .nat64 _
  refine ⟨.record (by decide) (.field list.keeps nofun <| .field names.keeps nofun <|
    .field (.bool p.enabled) nofun <| .field (.text p.namesNamespace) nofun .done), ?_⟩
  simp only [form, list.known, names.known, bind, Option.bind_some]

lemma WatchSettings.returns {w : WatchSettings} (sorted : Members.Sorted w.nodes) :
    form.Returns w := by
  have anywhere := returns_texts w.anywhere
  have nodes : (Form.members (Form.list .text)).Returns w.nodes :=
    .members sorted fun e _ => returns_texts e.2
  refine ⟨.record (by decide) (.field anywhere.keeps nofun <|
    .field nodes.keeps nofun .done), ?_⟩
  simp only [form, anywhere.known, nodes.known, bind, Option.bind_some]

lemma Settings.returns {s : Settings} (sorted : Members.Sorted s.watch.nodes) : form.Returns s := by
  have server := s.server.returns
  have polling := s.polling.returns
  have watch := WatchSettings.returns sorted
  refine ⟨.record (by decide) (.field server.keeps nofun <| .field polling.keeps nofun <|
    .field watch.keeps nofun .done), ?_⟩
  simp only [form, server.known, polling.known, watch.known, bind, Option.bind_some]

/-! ### Entries of listings -/

namespace NameEntry

variable {t : Tree} {d : Datum} {room : Nat} {e : NameEntry}

/-- The name that an entry has in a text: the entry itself, or what it has under its key. -/
def nameIn? (t : Tree) : Option String :=
  match t with
  | .string s => s
  | t => (t.only? "full_name").bind Tree.text?

lemma text_of_read (read : Json.readText room t = .ok d) :
    ∃ s, t = .string (some s) ∧ d = .text s := by
  match t, read with
  | .string (some s), read =>
    cases read
    exact ⟨s, rfl, rfl⟩

/-- What is read for an entry has the name that the entry has. -/
lemma nameIn?_of_read (read : form.shape.reader .text room t = .ok d)
    (known : form.ofDatum? d = some e) : nameIn? t = some e.name := by
  rw [form, Shape.reader] at read
  obtain ⟨-, ⟨d', isText, rfl⟩ | ⟨-, d', isRecord, rfl⟩⟩ := Json.readEither_eq_ok.mp read
  · rw [Shape.reader] at isText
    obtain ⟨s, rfl, rfl⟩ := text_of_read isText
    cases known
    rfl
  · rw [Shape.reader] at isRecord
    obtain ⟨_, found, _, isFound, isText, rfl⟩ :=
      Json.readRecord_only rfl (Json.readObject_eq_ok.mp isRecord).1
    obtain ⟨s, rfl, rfl⟩ := text_of_read isText
    cases known
    have named : (t.only? "full_name").bind Tree.text? = some s := by
      rw [show t.only? "full_name" = _ from isFound]
      rfl
    cases t with
    | string => cases isFound
    | _ => exact named

end NameEntry

namespace NamesAnswer

variable {a : NamesAnswer}

/-- The entries that a listing has in a text. -/
def entriesIn? (t : Tree) : Option (List Tree) := (t.only? "metrics").bind Tree.items?

/-- A listing that is read from a text has the names of its entries, in order. -/
lemma names_of_read {text : List (Option Char)} (read : form.ofChars text = .ok a) :
    ∃ items, entriesIn? (Json.Document.scan text).root = some items ∧
      items.map NameEntry.nameIn? = a.names.map some := by
  obtain ⟨d, isRecord, -, resolved⟩ := Form.ofChars_eq_ok.mp read
  have known := Form.resolve_eq_ok.mp resolved
  rw [form, Shape.reader] at isRecord
  obtain ⟨_, found, _, isFound, isList, rfl⟩ := Json.readRecord_only rfl isRecord
  change (Shape.list NameEntry.form.shape).reader .text _ found = _ at isList
  rw [Shape.reader] at isList
  obtain ⟨items, _, ds, rfl, -, each, rfl⟩ := Json.readList_eq_ok.mp isList
  obtain ⟨es, isEntries, ⟨⟩⟩ := Option.bind_eq_some_iff.mp known
  have named : List.Forall₂ (fun t e => NameEntry.nameIn? t = some e.name) items es :=
    Json.forall₂_across each.flip (Form.mapM_eq_some_iff.mp isEntries) fun _ _ _ isDatum known =>
      NameEntry.nameIn?_of_read isDatum known
  refine ⟨items, ?_, ?_⟩
  · rw [entriesIn?, show Tree.only? "metrics" _ = _ from isFound]
    rfl
  · rw [names, List.map_map, ← List.forall₂_eq_eq_eq]
    exact List.forall₂_map_left_iff.mpr (List.forall₂_map_right_iff.mpr named)

end NamesAnswer

/-! ### Texts -/

/-- Requests, listings, errors and settings are read again from their texts, and from all texts of
their values that repeat no key. A listing that is read from a text has the name of each entry in
it, in order, and so has what is read from the text of that listing. -/
theorem texts_read_again :
    (∀ r : MetricsRequest, MetricsRequest.form.Texts r) ∧
      (∀ a : NamesAnswer, NamesAnswer.form.Texts a) ∧
      (∀ a : NodesAnswer, NodesAnswer.form.Texts a) ∧
      (∀ e : Error, Error.form.Texts e) ∧
      (∀ s : Settings, Members.Sorted s.watch.nodes → Settings.form.Texts s) ∧
      ∀ (text : List (Option Char)) (a : NamesAnswer), NamesAnswer.form.ofChars text = .ok a →
        (∃ items, NamesAnswer.entriesIn? (Json.Document.scan text).root = some items ∧
          items.map NameEntry.nameIn? = a.names.map some) ∧
        (NamesAnswer.form.ofText (NamesAnswer.form.toText a)).map NamesAnswer.names
          = .ok a.names := by
  have listing (a : NamesAnswer) : NamesAnswer.form.Texts a :=
    .of_returns a.returns (by decide) (by decide)
  refine ⟨fun r => .of_returns r.returns (by decide) (by decide), listing,
    fun a => .of_returns a.returns (by decide) (by decide),
    fun e => .of_returns e.returns (by decide) (by decide),
    fun s sorted => .of_returns (Settings.returns sorted) (by decide) (by decide),
    fun text a read => ⟨NamesAnswer.names_of_read read, ?_⟩⟩
  rw [(listing a).written]
  rfl

/-- Settings with a quote, a line break and characters far beyond ASCII in their strings, and a
listing of a bare name and one beside something else. -/
theorem texts_read_again_listing :
    let s : Settings :=
      { server :=
          { baseUrl := "https://h/\"a\\b\"", timeoutSeconds := 18446744073709551615, maxAttempts := 3 }
        polling := .standard
        watch := { anywhere := ["a\n\x01"], nodes := [("n1", ["𝄞"]), ("n2", [])] } }
    let entry := "\x7b\"type\":\"gauge\",\"full_name\":\"b\"\x7d"
    let text := ("\x7b\"total\":2,\"metrics\":[\"a\"," ++ entry ++ "]\x7d").toList.map some
    let a : NamesAnswer := ⟨[.bare "a", .described "b"]⟩
    (Members.Sorted s.watch.nodes ∧ Settings.form.Texts s) ∧
      NamesAnswer.form.ofChars text = .ok a ∧
      (∃ items, NamesAnswer.entriesIn? (Json.Document.scan text).root = some items ∧
        items.map NameEntry.nameIn? = [some "a", some "b"]) := by
  intro s entry text a
  have sorted : Members.Sorted s.watch.nodes := by decide
  have read : NamesAnswer.form.ofChars text = .ok a := by decide +kernel
  exact ⟨⟨sorted, texts_read_again.2.2.2.2.1 s sorted⟩, read,
    (texts_read_again.2.2.2.2.2 text a read).1⟩

end MetricWatch
