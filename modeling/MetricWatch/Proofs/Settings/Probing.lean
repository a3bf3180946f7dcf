import MetricWatch.Settings.Loader
import MetricWatch.Proofs.Url.Below
import Mathlib.Data.List.FinRange

/-!
# Where settings are found

The standard locations are ordered by root directory, then by the directories above it, then by the
stem of the name and last by its extension. Probing finds the first location at which anything is,
a directory too, and the settings are those of a file that is found, read in the format of its
extension. So a directory hides the files after it. The main statement is `Loader.probes`, and
`Loader.hidden_by_directory` shows a file that is hidden.
-/

namespace MetricWatch

namespace Files

/-! ### Paths below others -/

lemma parts_append (front back : String) :
    parts (front ++ "/" ++ back) = parts front ++ parts back := by
  have chars : (front ++ "/" ++ back).toList = front.toList ++ '/' :: back.toList := by simp
  rw [parts, chars, Text.parts_append (by decide), List.map_append]
  rfl

/-- The parts of a path below another are the parts of both. Where no separator was needed, the
first of them ends in an empty part, which is left out. -/
lemma parts_join (dir below : String) : parts (join dir below) = parts dir ++ parts below ∨
    ∃ front, parts dir = front ++ [""] ∧ parts (join dir below) = front ++ parts below := by
  unfold join
  split
  · rename_i isEmpty
    obtain rfl : dir = "" := String.toList_eq_nil_iff.mp (List.getLast?_eq_none_iff.mp isEmpty)
    exact .inr ⟨[], rfl, rfl⟩
  · rename_i c isLast
    split
    · rename_i isSeparator
      obtain ⟨front, whole⟩ := List.getLast?_eq_some_iff.mp (isSeparator ▸ isLast)
      obtain rfl : dir = String.ofList front ++ "/" := String.toList_inj.mp (by simp [whole])
      refine .inr ⟨parts (String.ofList front), ?_, parts_append _ _⟩
      exact (congrArg parts String.append_empty.symm).trans (parts_append _ "")
    · exact .inl (parts_append dir below)

lemma exists_join_eq (dir below : String) : ∃ more, join dir below = dir ++ more := by
  unfold join
  split
  · rename_i isEmpty
    obtain rfl : dir = "" := String.toList_eq_nil_iff.mp (List.getLast?_eq_none_iff.mp isEmpty)
    exact ⟨below, String.empty_append.symm⟩
  · split
    · exact ⟨below, rfl⟩
    · exact ⟨"/" ++ below, String.append_assoc⟩

/-- Below an absolute path there are absolute paths. -/
lemma absolute_join {dir : String} (absolute : dir.toList.head? = some '/') (below : String) :
    (join dir below).toList.head? = some '/' := by
  obtain ⟨more, isJoin⟩ := exists_join_eq dir below
  rw [isJoin, String.toList_append, List.head?_append, absolute]
  rfl

/-- A path goes on from the place to which its front leads. -/
lemma follow?_append (files : Files) (place front back : List String) :
    files.follow? place (front ++ back)
      = (files.follow? place front).bind fun reached => files.follow? reached.1 back := by
  induction front generalizing place with
  | nil =>
    cases entry : files.entryAt? place with
    | some e => simp [follow?, entry]
    | none => cases back <;> simp [follow?, entry]
  | cons part front ih =>
    simp only [List.cons_append, follow?, ih]
    split_ifs <;> rfl

/-- An empty part before others leads nowhere else. -/
lemma follow?_blank (files : Files) (place : List String) {parts : List String}
    (more : parts ≠ []) : files.follow? place ("" :: parts) = files.follow? place parts := by
  obtain ⟨part, rest, rfl⟩ := List.exists_cons_of_ne_nil more
  by_cases isDirectory : files.entryAt? place = some .directory
  · simp [follow?, isDirectory]
  · simp [follow?, isDirectory]

/-- Where parts lead to, there is what is said to be there. -/
lemma entryAt?_of_follow? {files : Files} {place reached : List String} {parts : List String}
    {entry : FileEntry} (led : files.follow? place parts = some (reached, entry)) :
    files.entryAt? reached = some entry := by
  induction parts generalizing place with
  | nil =>
    obtain ⟨_, found, same⟩ := Option.map_eq_some_iff.mp led
    obtain ⟨rfl, rfl⟩ := Prod.mk.inj same
    exact found
  | cons part parts ih =>
    simp only [follow?] at led
    split_ifs at led
    all_goals exact ih led

lemma parts_ne_nil (path : String) : parts path ≠ [] := by
  simp [parts, Text.parts_ne_nil]

/-- A path below another goes on from the place to which that leads. -/
lemma follow?_join (files : Files) (place : List String) (dir below : String) :
    files.follow? place (parts (join dir below))
      = files.follow? place (parts dir ++ parts below) := by
  rcases parts_join dir below with isJoin | ⟨front, isDir, isJoin⟩
  · rw [isJoin]
  · rw [isJoin, isDir, List.append_assoc, follow?_append, follow?_append, List.singleton_append]
    simp only [follow?_blank files _ (parts_ne_nil below)]

end Files

namespace Loader

/-! ### Locations -/

/-- A standard location for some root directories: which of them, how far above it, and the stem
and the extension of the name. -/
structure Location (roots : List String) where
  root : Fin roots.length
  above : Fin 3
  stem : Fin 2
  extension : Fin 2

namespace Location

variable {roots : List String}

/-- The directory of a location. -/
def directory (l : Location roots) : String :=
  [roots[l.root], Files.join roots[l.root] "..", Files.join roots[l.root] "../.."][l.above]

/-- The name of the file at a location. -/
def name (l : Location roots) : String :=
  ["config", "clusterwatch"][l.stem] ++ "." ++ ["json", "toml"][l.extension]

/-- The path of a location. -/
def path (l : Location roots) : String := Files.join l.directory l.name

/-- The order in which locations are preferred. -/
def Before (l m : Location roots) : Prop :=
  l.root < m.root ∨ l.root = m.root ∧ (l.above < m.above ∨ l.above = m.above ∧
    (l.stem < m.stem ∨ l.stem = m.stem ∧ l.extension < m.extension))

/-- Whether a location is the first with a property. -/
def IsFirst (p : Location roots → Prop) (l : Location roots) : Prop :=
  p l ∧ ∀ m : Location roots, m.Before l → ¬ p m

/-! ### Order -/

lemma Before.asymm {l m : Location roots} (before : l.Before m) : ¬ m.Before l := by
  unfold Before at before ⊢
  omega

lemma before_or_eq_or_before (l m : Location roots) : l.Before m ∨ l = m ∨ m.Before l := by
  obtain ⟨root, above, stem, extension⟩ := l
  obtain ⟨root', above', stem', extension'⟩ := m
  simp only [Before, mk.injEq]
  omega

/-- The locations for one root directory. -/
def inRoot (root : Fin roots.length) : List (Location roots) :=
  [0, 1, 2].flatMap fun above => [0, 1].flatMap fun stem => [0, 1].map fun extension =>
    ⟨root, above, stem, extension⟩

/-- All locations. -/
def all (roots : List String) : List (Location roots) := (List.finRange roots.length).flatMap inRoot

lemma mem_all (l : Location roots) : l ∈ all roots := by
  obtain ⟨root, above, stem, extension⟩ := l
  refine List.mem_flatMap.mpr ⟨root, List.mem_finRange root, ?_⟩
  have aboves : ∀ above : Fin 3, above ∈ [0, 1, 2] := by decide
  have twos : ∀ n : Fin 2, n ∈ [0, 1] := by decide
  exact List.mem_flatMap.mpr ⟨above, aboves above, List.mem_flatMap.mpr
    ⟨stem, twos stem, List.mem_map.mpr ⟨extension, twos extension, rfl⟩⟩⟩

lemma root_of_mem_inRoot {root : Fin roots.length} {l : Location roots} (mem : l ∈ inRoot root) :
    l.root = root := by
  simp only [inRoot, List.mem_flatMap, List.mem_map] at mem
  obtain ⟨_, -, _, -, _, -, rfl⟩ := mem
  rfl

lemma pairwise_all : (all roots).Pairwise Before := by
  refine List.pairwise_flatMap.mpr ⟨fun root _ => ?_, ?_⟩
  · simp [inRoot, Before]
  · refine (List.pairwise_lt_finRange roots.length).imp fun less l inFirst m inSecond => ?_
    left
    rwa [root_of_mem_inRoot inFirst, root_of_mem_inRoot inSecond]

/-- The candidates are the paths of all locations. -/
lemma map_path_all : (all roots).map path = roots.flatMap candidatesIn := by
  have each (root : Fin roots.length) : (inRoot root).map path = candidatesIn roots[root] := rfl
  rw [all, List.map_flatMap]
  simp only [each]
  conv_rhs => rw [← List.map_getElem_finRange roots, List.flatMap_map]
  rfl

/-- A search through all locations finds the first with a property. -/
lemma find?_all {p : Location roots → Bool} {l : Location roots} :
    (all roots).find? p = some l ↔ l.IsFirst fun m => p m = true := by
  rw [List.find?_eq_some_iff_append]
  refine and_congr_right fun _ => ⟨?_, fun none => ?_⟩
  · rintro ⟨front, back, whole, noFront⟩ m before
    have ordered : (front ++ l :: back).Pairwise Before := whole ▸ pairwise_all
    have mem : m ∈ front ++ l :: back := whole ▸ mem_all m
    rcases List.mem_append.mp mem with inFront | inBack
    · simpa using noFront m inFront
    rcases List.mem_cons.mp inBack with rfl | later
    · exact absurd before before.asymm
    · have after := List.rel_of_pairwise_cons (List.pairwise_append.mp ordered).2.1 later
      exact absurd before after.asymm
  · obtain ⟨front, back, whole⟩ := List.append_of_mem (mem_all l)
    have ordered : (front ++ l :: back).Pairwise Before := whole ▸ pairwise_all
    refine ⟨front, back, whole, fun m mem => ?_⟩
    simpa using none m ((List.pairwise_append.mp ordered).2.2 m mem l List.mem_cons_self)

/-- A search through the candidates comes to the path of the first location with a property. -/
lemma find?_candidates {p : String → Bool} {found : String} :
    (roots.flatMap candidatesIn).find? p = some found ↔
      ∃ l : Location roots, l.IsFirst (fun m => p m.path = true) ∧ l.path = found := by
  rw [← map_path_all, List.find?_map, Option.map_eq_some_iff]
  simp only [find?_all, Function.comp_apply]

/-! ### Formats -/

/-- The settings that a text at a location holds. -/
def read (l : Location roots) (text : String) : Except Error Settings :=
  [ofJson, ofToml][l.extension] text

/-- The name of a location is one part of a path, and no part that is resolved. -/
lemma name_ordinary (l : Location roots) : Files.parts l.name = [l.name] ∧
    l.name ≠ "" ∧ l.name ≠ "." ∧ l.name ≠ ".." := by
  have names : ∀ stem extension : Fin 2,
      let name := ["config", "clusterwatch"][stem] ++ "." ++ ["json", "toml"][extension]
      Files.parts name = [name] ∧ name ≠ "" ∧ name ≠ "." ∧ name ≠ ".." := by decide
  exact names l.stem l.extension

/-- The directory of a location is the root directory that is there, its parent or the parent of
that, as far as these are directories. -/
lemma follow?_directory {files : Files} {l : Location roots} {place : List String}
    (isRoot : files.follow? [] (Files.parts roots[l.root]) = some (place, .directory))
    (above : ∀ n, files.entryAt? (place.take n) = some .directory) :
    files.follow? [] (Files.parts l.directory)
      = some ([place, place.dropLast, place.dropLast.dropLast][l.above], .directory) := by
  have here : files.entryAt? place = some .directory := by
    simpa using above place.length
  have parent : files.entryAt? place.dropLast = some .directory := by
    rw [List.dropLast_eq_take]
    exact above _
  have grandparent : files.entryAt? place.dropLast.dropLast = some .directory := by
    rw [List.dropLast_eq_take, List.dropLast_eq_take, List.take_take]
    exact above _
  have once : Files.parts ".." = [".."] := by decide
  have twice : Files.parts "../.." = ["..", ".."] := by decide
  obtain ⟨root, above, stem, extension⟩ := l
  match above with
  | 0 => exact isRoot
  | 1 =>
    refine (files.follow?_join [] roots[root] "..").trans ?_
    rw [Files.follow?_append, isRoot, once]
    simp [Files.follow?, here, parent]
  | 2 =>
    refine (files.follow?_join [] roots[root] "../..").trans ?_
    rw [Files.follow?_append, isRoot, twice]
    simp [Files.follow?, here, parent, grandparent]

lemma absolute_directory {l : Location roots} (absolute : roots[l.root].toList.head? = some '/') :
    l.directory.toList.head? = some '/' := by
  obtain ⟨root, above, stem, extension⟩ := l
  match above with
  | 0 => exact absolute
  | 1 | 2 => exact Files.absolute_join absolute _

/-- Below a root directory that is there, a location is in this directory, its parent or the parent
of that, as far as these are directories. -/
lemma lookUp?_path {files : Files} {l : Location roots} {place : List String}
    (absolute : roots[l.root].toList.head? = some '/')
    (isRoot : files.follow? [] (Files.parts roots[l.root]) = some (place, .directory))
    (above : ∀ n, files.entryAt? (place.take n) = some .directory) :
    files.lookUp? l.path
      = files.entryAt? ([place, place.dropLast, place.dropLast.dropLast][l.above] ++ [l.name]) := by
  obtain ⟨single, nonempty, noDot, noDots⟩ := l.name_ordinary
  have led := follow?_directory isRoot above
  have isThere := Files.entryAt?_of_follow? led
  rw [Files.lookUp?, path, if_pos (Files.absolute_join (absolute_directory absolute) l.name),
    Files.follow?_join, Files.follow?_append, led, Option.bind_some, single]
  generalize [place, place.dropLast, place.dropLast.dropLast][l.above] = there at isThere ⊢
  simp [Files.follow?, isThere, nonempty, noDot, noDots]

/-- The path of a location names a file as the name alone does. -/
lemma fileName?_path (l : Location roots) : fileName? l.path = fileName? l.name := by
  obtain ⟨single, nonempty, noDot, noDots⟩ := l.name_ordinary
  have parts : ∃ front, Files.parts l.path = front ++ [l.name] := by
    rcases Files.parts_join l.directory l.name with isJoin | ⟨front, -, isJoin⟩
    · exact ⟨_, isJoin.trans (by rw [single])⟩
    · exact ⟨front, isJoin.trans (by rw [single])⟩
  obtain ⟨front, whole⟩ := parts
  rw [fileName?, fileName?, whole, single, List.filter_append]
  simp [nonempty, noDot, noDots]

lemma extension?_path (l : Location roots) :
    extension? l.path = some ["json", "toml"][l.extension] := by
  have alone : ∀ stem extension : Fin 2,
      extension? (["config", "clusterwatch"][stem] ++ "." ++ ["json", "toml"][extension])
        = some ["json", "toml"][extension] := by decide
  rw [extension?, fileName?_path]
  exact alone l.stem l.extension

/-- A text is read in the format of its location's extension. -/
lemma ofText_path (l : Location roots) (text : String) : ofText l.path text = l.read text := by
  rw [ofText, extension?_path]
  obtain ⟨root, above, stem, extension⟩ := l
  match extension with
  | 0 | 1 => rfl

end Location

/-! ### Probing -/

/-- Whether a path leads to a file. -/
def isFile (files : Files) (path : String) : Bool :=
  match files.lookUp? path with
  | some (.file _) => true
  | _ => false

/-- The first standard location at which a file is, from some root directories. -/
def firstFile? (files : Files) (roots : List String) : Option String :=
  (roots.flatMap candidatesIn).find? (isFile files)

section

variable {files : Files} {roots : List String}

lemma probe?_eq_some_iff {found : String} : probe? files roots = some found ↔
    ∃ l : Location roots, l.IsFirst (fun m => files.holds m.path = true) ∧ l.path = found :=
  Location.find?_candidates

lemma probe?_eq_none_iff :
    probe? files roots = none ↔ ∀ l : Location roots, files.lookUp? l.path = none := by
  rw [probe?, ← Location.map_path_all, List.find?_eq_none]
  simp [Files.holds, Location.mem_all]

lemma ofFile_path {l : Location roots} {bytes : List UInt8}
    (isFile : files.lookUp? l.path = some (.file bytes)) {s : Settings} :
    ofFile files l.path = .ok s
      ↔ ∃ text, Text.Utf8.decode? bytes = some text ∧ l.read text = .ok s := by
  rw [ofFile, isFile]
  simp only [ofEntry, textOf]
  cases read : Text.Utf8.decode? bytes with
  | none => simp
  | some text => simp [Location.ofText_path]

lemma ofProbed_of_directory {l : Location roots}
    (first : l.IsFirst fun m => files.holds m.path = true)
    (isDirectory : files.lookUp? l.path = some .directory) :
    ofProbed files roots
      = .error ⟨.config, "Failed to read config file: Is a directory (os error 21)"⟩ := by
  rw [ofProbed, probe?_eq_some_iff.mpr ⟨l, first, rfl⟩]
  simp [ofFile, isDirectory, ofEntry, textOf]

lemma ofProbed_eq_ok_iff {s : Settings} : ofProbed files roots = .ok s ↔
    ∃ (l : Location roots) (bytes : List UInt8) (text : String),
      l.IsFirst (fun m => files.holds m.path = true) ∧
      files.lookUp? l.path = some (.file bytes) ∧ Text.Utf8.decode? bytes = some text ∧
      l.read text = .ok s := by
  constructor
  · intro loaded
    cases probed : probe? files roots with
    | none =>
      rw [ofProbed, probed] at loaded
      cases loaded
    | some found =>
      obtain ⟨l, first, rfl⟩ := probe?_eq_some_iff.mp probed
      obtain ⟨entry, isEntry⟩ := Option.isSome_iff_exists.mp first.1
      cases entry with
      | directory =>
        rw [ofProbed_of_directory first isEntry] at loaded
        cases loaded
      | file bytes =>
        rw [ofProbed, probed] at loaded
        obtain ⟨text, isText, read⟩ := (ofFile_path isEntry).mp loaded
        exact ⟨l, bytes, text, first, isEntry, isText, read⟩
  · rintro ⟨l, bytes, text, first, isEntry, isText, read⟩
    rw [ofProbed, probe?_eq_some_iff.mpr ⟨l, first, rfl⟩]
    exact (ofFile_path isEntry).mpr ⟨text, isText, read⟩

lemma holds_of_isFile {path : String} (file : isFile files path = true) :
    files.holds path = true := by
  unfold isFile at file
  split at file
  · simp_all [Files.holds]
  · cases file

lemma isFile_or_directory {path : String} (holds : files.holds path = true) :
    isFile files path = true ∨ files.lookUp? path = some .directory := by
  obtain ⟨entry, found⟩ := Option.isSome_iff_exists.mp holds
  cases entry with
  | file bytes => exact .inl (by simp [isFile, found])
  | directory => exact .inr found

/-- Probing finds the first file just when there is a file before every directory. -/
lemma probe?_eq_firstFile?_iff : probe? files roots = firstFile? files roots ↔
    ∀ l : Location roots, files.lookUp? l.path = some .directory →
      ∃ m : Location roots, m.Before l ∧ isFile files m.path = true := by
  constructor
  · intro same l isDirectory
    by_contra noFile
    have holds : files.holds l.path = true := by simp [Files.holds, isDirectory]
    have notFile : ¬ isFile files l.path = true := by simp [isFile, isDirectory]
    cases probed : probe? files roots with
    | none => simp [probe?_eq_none_iff.mp probed l] at isDirectory
    | some found =>
      obtain ⟨first, isFirst, rfl⟩ := probe?_eq_some_iff.mp probed
      obtain ⟨file, ⟨isFile, -⟩, samePath⟩ := Location.find?_candidates.mp (same.symm.trans probed)
      rw [samePath] at isFile
      rcases first.before_or_eq_or_before l with before | rfl | after
      · exact noFile ⟨first, before, isFile⟩
      · exact notFile isFile
      · exact isFirst.2 l after holds
  · intro preceded
    cases probed : probe? files roots with
    | none =>
      have empty := probe?_eq_none_iff.mp probed
      rw [firstFile?, ← Location.map_path_all, List.find?_eq_none.mpr]
      simp [isFile, empty]
    | some found =>
      obtain ⟨first, ⟨holds, none⟩, isPath⟩ := probe?_eq_some_iff.mp probed
      have file : isFile files first.path = true := by
        refine (isFile_or_directory holds).resolve_right fun isDirectory => ?_
        obtain ⟨m, before, earlier⟩ := preceded first isDirectory
        exact none m before (holds_of_isFile earlier)
      exact (Location.find?_candidates.mpr
        ⟨first, ⟨file, fun m before earlier => none m before (holds_of_isFile earlier)⟩, isPath⟩).symm

end

/-- What probing comes to. -/
structure Probes (files : Files) (roots : List String) : Prop where
  /-- A location is in a root directory, in its parent or in the parent of that. -/
  stands {l : Location roots} {place : List String}
    (absolute : roots[l.root].toList.head? = some '/')
    (isRoot : files.follow? [] (Files.parts roots[l.root]) = some (place, .directory))
    (above : ∀ n, files.entryAt? (place.take n) = some .directory) :
    files.lookUp? l.path
      = files.entryAt? ([place, place.dropLast, place.dropLast.dropLast][l.above] ++ [l.name])
  /-- The first location is found at which anything is, -/
  found {path : String} : probe? files roots = some path ↔
    ∃ l : Location roots, l.IsFirst (fun m => files.holds m.path = true) ∧ l.path = path
  /-- and none if nothing is at any of them. -/
  nothing : probe? files roots = none ↔ ∀ l : Location roots, files.lookUp? l.path = none
  /-- There are settings just when this location is that of a file which holds a text that can be
  read in the format of its extension. -/
  loads {s : Settings} : ofProbed files roots = .ok s ↔
    ∃ (l : Location roots) (bytes : List UInt8) (text : String),
      l.IsFirst (fun m => files.holds m.path = true) ∧
      files.lookUp? l.path = some (.file bytes) ∧ Text.Utf8.decode? bytes = some text ∧
      l.read text = .ok s
  /-- A directory that is found cannot be read, whatever files there are after it. -/
  hides {l : Location roots} (first : l.IsFirst fun m => files.holds m.path = true)
    (isDirectory : files.lookUp? l.path = some .directory) :
    ofProbed files roots
      = .error ⟨.config, "Failed to read config file: Is a directory (os error 21)"⟩
  /-- So the first file is found just when there is a file before every directory. -/
  meant : probe? files roots = firstFile? files roots ↔
    ∀ l : Location roots, files.lookUp? l.path = some .directory →
      ∃ m : Location roots, m.Before l ∧ isFile files m.path = true

/-- In every tree probing takes a directory for settings as it takes a file. -/
theorem probes (files : Files) (roots : List String) : Probes files roots where
  stands := Location.lookUp?_path
  found := probe?_eq_some_iff
  nothing := probe?_eq_none_iff
  loads := ofProbed_eq_ok_iff
  hides := ofProbed_of_directory
  meant := probe?_eq_firstFile?_iff

/-- A directory of the name `config.json` hides the file `config.toml` beside it. -/
theorem hidden_by_directory :
    let settings := "[server]\nbase_url = 'http://h'\n"
    let files : Files := ⟨["d"], [(["d", "config.json"], .directory),
      (["d", "config.toml"], .file (Text.Utf8.encode settings))]⟩
    firstFile? files ["/d"] = some "/d/config.toml" ∧
      (∃ s, ofFile files "/d/config.toml" = .ok s) ∧
      probe? files ["/d"] = some "/d/config.json" ∧
      ofProbed files ["/d"]
        = .error ⟨.config, "Failed to read config file: Is a directory (os error 21)"⟩ := by
  intro settings files
  have first : firstFile? files ["/d"] = some "/d/config.toml" := by decide +kernel
  have probed : probe? files ["/d"] = some "/d/config.json" := by decide +kernel
  have isDirectory : files.lookUp? "/d/config.json" = some .directory := by decide +kernel
  have isGood : ofFile files "/d/config.toml" = .ok (.ofBaseUrl "http://h") := by
    decide +kernel
  refine ⟨first, ⟨_, isGood⟩, probed, ?_⟩
  rw [ofProbed, probed]
  simp only [ofFile, isDirectory, ofEntry, textOf]
  rfl

end Loader

end MetricWatch
