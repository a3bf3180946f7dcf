import MetricWatch.Metric.Kind
import MetricWatch.Proofs.Text.LetterCase
import Mathlib.Data.List.Forall2
import Mathlib.Data.List.Nodup

/-!
# Names in any case

A table is meant to read each name back in any case, and nothing else. Reading puts the text into
lower case but leaves the names as they are written, so the two agree for the tables whose names are
in lower case, and for no others. The main statement is `NameTable.conversions`; the kinds of metric
are one of the tables that agree.
-/

namespace MetricWatch

namespace NameTable

open Text (toNat_toLower toNat_toUpper toLower_toLower)

variable {α : Type} {table : NameTable α} {s t : String}

/-! ### Texts that differ in case -/

/-- Two signs are the same letter when they are the same sign, or one is the other's capital. -/
def SameLetter (c d : Char) : Prop := c = d ∨ c = d.toUpper ∨ d = c.toUpper

/-- Two texts are the same up to case when they are so letter by letter. -/
def SameLetters (s t : String) : Prop := List.Forall₂ SameLetter s.toList t.toList

lemma sameLetter_iff {c d : Char} : SameLetter c d ↔ c.toLower = d.toLower := by
  simp only [SameLetter, ← Char.toNat_inj, toNat_toLower, toNat_toUpper]
  split_ifs <;> omega

/-- So they are the same up to case when their lower cases are the same. -/
lemma sameLetters_iff : SameLetters s t ↔ lowerCase s = lowerCase t := by
  rw [lowerCase, lowerCase, String.ofList_inj, ← List.forall₂_eq_eq_eq,
    List.forall₂_map_left_iff, List.forall₂_map_right_iff]
  exact ⟨fun same => same.imp fun _ _ => sameLetter_iff.mp,
    fun same => same.imp fun _ _ => sameLetter_iff.mpr⟩

lemma lowerCase_lowerCase (s : String) : lowerCase (lowerCase s) = lowerCase s := by
  simp [lowerCase, Function.comp_def, toLower_toLower]

instance (s t : String) : Decidable (SameLetters s t) := decidable_of_iff _ sameLetters_iff.symm

/-! ### Tables -/

/-- No value is listed twice, and no two names are the same up to case. -/
structure Distinct (table : NameTable α) : Prop where
  values : (table.entries.map Prod.fst).Nodup
  names : table.entries.Pairwise fun d e => ¬ SameLetters d.2 e.2

/-- The error of a text that names no value. -/
def unknown (table : NameTable α) (s : String) : Error :=
  ⟨.invalidInput, "unknown " ++ table.title ++ " '" ++ s ++ "'"⟩

/-- Reading and writing agree when names are read in any case. -/
structure Agrees [DecidableEq α] (table : NameTable α) : Prop where
  /-- The name of a value is read as that value. -/
  back : ∀ a n, table.name? a = some n → table.parse n = .ok a
  /-- A text is read as the value whose name it is up to case, -/
  reads : ∀ s a, table.parse s = .ok a ↔ ∃ n, table.name? a = some n ∧ SameLetters s n
  /-- and one that names no value up to case is invalid input, which the message quotes. -/
  refuses : ∀ s, (¬ ∃ a n, table.name? a = some n ∧ SameLetters s n) →
    table.parse s = .error (table.unknown s)

/-- What stands first under a key is all that stands under it when keys are distinct. -/
lemma find?_key {β κ γ : Type} [DecidableEq κ] {key : β → κ} {other : β → γ} {l : List β}
    (nodup : (l.map key).Nodup) {k : κ} {z : γ} :
    (l.find? fun y => key y = k).map other = some z ↔ ∃ x ∈ l, key x = k ∧ other x = z := by
  rw [Option.map_eq_some_iff]
  constructor
  · rintro ⟨x, found, isOther⟩
    exact ⟨x, List.mem_of_find?_eq_some found, by simpa using List.find?_some found, isOther⟩
  · rintro ⟨x, mem, rfl, isOther⟩
    obtain ⟨y, found⟩ := Option.isSome_iff_exists.mp
      (List.find?_isSome.mpr ⟨x, mem, by simp⟩ : (l.find? fun y => key y = key x).isSome)
    have own : key y = key x := by simpa using List.find?_some found
    have same := List.inj_on_of_nodup_map nodup (List.mem_of_find?_eq_some found) mem own
    exact ⟨y, found, same ▸ isOther⟩

lemma nodup_lowerCase (distinct : table.Distinct) :
    (table.entries.map fun e => lowerCase e.2).Nodup :=
  List.pairwise_map.mpr (distinct.names.imp fun apart same => apart (sameLetters_iff.mpr same))

lemma nodup_names (distinct : table.Distinct) : (table.entries.map Prod.snd).Nodup :=
  List.Nodup.of_map lowerCase (by rw [List.map_map]; exact nodup_lowerCase distinct)

lemma name?_eq_some [DecidableEq α] (distinct : table.Distinct) {a : α} {n : String} :
    table.name? a = some n ↔ (a, n) ∈ table.entries := by
  rw [name?, find?_key distinct.values]
  simp

lemma find?_eq_some (distinct : table.Distinct) {a : α} :
    table.find? s = some a ↔ (a, lowerCase s) ∈ table.entries := by
  rw [find?, find?_key (nodup_names distinct)]
  simp

lemma parse_eq_ok {a : α} : table.parse s = .ok a ↔ table.find? s = some a := by
  rw [parse]
  cases table.find? s <;> simp

/-- A text that is read as no value is refused with one error. -/
lemma parse_eq_error (unread : ∀ a, table.parse s ≠ .ok a) :
    table.parse s = .error (table.unknown s) := by
  cases found : table.find? s with
  | some a => exact absurd (parse_eq_ok.mpr found) (unread a)
  | none => rw [parse, found, unknown]

/-! ### The main statement -/

/-- No name of a table has a capital among its letters. -/
def InLowerCase (table : NameTable α) : Prop := ∀ e ∈ table.entries, lowerCase e.2 = e.2

/-- How a table reads texts and writes names. -/
structure Conversions [DecidableEq α] (table : NameTable α) : Prop where
  /-- A text is read as the value whose name is its lower case, -/
  reads : ∀ s a, table.parse s = .ok a ↔ table.name? a = some (lowerCase s)
  /-- and one whose lower case is no name is invalid input, which the message quotes. -/
  refuses : ∀ s, (∀ a, table.name? a ≠ some (lowerCase s)) →
    table.parse s = .error (table.unknown s)
  /-- What is read is a value that the text names up to case; -/
  sound : ∀ s a, table.parse s = .ok a → ∃ n, table.name? a = some n ∧ SameLetters s n
  /-- a name in lower case is read back in any case, -/
  back : ∀ s a n, table.name? a = some n → lowerCase n = n → SameLetters s n → table.parse s = .ok a
  /-- and a name with a capital is read back in none. -/
  lost : ∀ s a n, table.name? a = some n → lowerCase n ≠ n → SameLetters s n →
    table.parse s = .error (table.unknown s)
  /-- So both directions agree just when all names are in lower case. -/
  agree : table.Agrees ↔ table.InLowerCase

/-- This is how every table reads and writes whose names are distinct up to case. -/
theorem conversions [DecidableEq α] (distinct : table.Distinct) : table.Conversions := by
  have reads (s : String) (a : α) : table.parse s = .ok a ↔ table.name? a = some (lowerCase s) := by
    rw [parse_eq_ok, find?_eq_some distinct, name?_eq_some distinct]
  have refuses (s : String) (unnamed : ∀ a, table.name? a ≠ some (lowerCase s)) :
      table.parse s = .error (table.unknown s) :=
    parse_eq_error fun a read => unnamed a ((reads s a).mp read)
  have sound (s : String) (a : α) (read : table.parse s = .ok a) :
      ∃ n, table.name? a = some n ∧ SameLetters s n :=
    ⟨lowerCase s, (reads s a).mp read, sameLetters_iff.mpr (lowerCase_lowerCase s).symm⟩
  have back (s : String) (a : α) (n : String) (named : table.name? a = some n)
      (low : lowerCase n = n) (same : SameLetters s n) : table.parse s = .ok a := by
    rw [reads, named, sameLetters_iff.mp same, low]
  have lost (s : String) (a : α) (n : String) (named : table.name? a = some n)
      (capital : lowerCase n ≠ n) (same : SameLetters s n) :
      table.parse s = .error (table.unknown s) := by
    refine refuses s fun b named' => capital ?_
    -- Whatever has the name's lower case for its own name has a name that is the same up to case.
    have mem := (name?_eq_some distinct).mp named
    have mem' := (name?_eq_some distinct).mp named'
    rw [sameLetters_iff.mp same] at mem'
    have one := List.inj_on_of_nodup_map (nodup_lowerCase distinct) mem' mem (lowerCase_lowerCase n)
    exact congrArg Prod.snd one
  refine ⟨reads, refuses, sound, back, lost, ⟨fun agrees e mem => ?_, fun low => ?_⟩⟩
  · by_contra capital
    have named := (name?_eq_some distinct).mpr mem
    have lost := lost e.2 e.1 e.2 named capital (sameLetters_iff.mpr rfl)
    rw [agrees.back e.1 e.2 named] at lost
    cases lost
  · have low {a : α} {n : String} (named : table.name? a = some n) : lowerCase n = n :=
      low _ ((name?_eq_some distinct).mp named)
    refine ⟨fun a n named => back n a n named (low named) (sameLetters_iff.mpr rfl),
      fun s a => ⟨sound s a, fun ⟨n, named, same⟩ => back s a n named (low named) same⟩,
      fun s unnamed => parse_eq_error fun a read => unnamed ⟨a, sound s a read⟩⟩

/-- The kinds of metric are read in any case. -/
theorem kinds_agree : MetricKind.table.Distinct ∧ (∀ k, MetricKind.table.name? k = some k.name) ∧
    MetricKind.table.Agrees := by
  have distinct : MetricKind.table.Distinct := ⟨by decide, by decide⟩
  have named (k : MetricKind) : MetricKind.table.name? k = some k.name := by cases k <;> decide
  have low : MetricKind.table.InLowerCase := by simp only [InLowerCase]; decide
  exact ⟨distinct, named, (conversions distinct).agree.mpr low⟩

/-- Two units of time of which one is written with a capital: they are distinct up to case, yet the
name with the capital is not read back. -/
theorem capital_lost :
    let units : NameTable (Fin 2) := ⟨"Unit", [(0, "Seconds"), (1, "milliseconds")]⟩
    units.Distinct ∧ units.name? 0 = some "Seconds" ∧
      units.parse "Seconds" = .error ⟨.invalidInput, "unknown Unit 'Seconds'"⟩ ∧
      ¬ units.Agrees := by
  intro units
  have lost : units.parse "Seconds" = .error ⟨.invalidInput, "unknown Unit 'Seconds'"⟩ := by
    decide
  refine ⟨⟨by decide, by decide⟩, by decide, lost, fun agrees => ?_⟩
  have back := agrees.back 0 "Seconds" (by decide)
  rw [lost] at back
  cases back

end NameTable

end MetricWatch
