import MetricWatch.Journal.Basic

/-!
# Filters of the journal

A filter says which notes are shown. It is written as directives between commas: a level for all
notes, or a topic with a level. All topics of this program begin with its own name.
-/

namespace MetricWatch

/-- The least important level that is shown; nothing is shown without one. -/
structure Filter where
  threshold : Option Level
  deriving DecidableEq, Repr

namespace Filter

/-- The filter unless another is asked for. -/
def standard : Filter := ⟨some .info⟩

/-- Whether a note is shown. -/
def shows (f : Filter) (n : Note) : Bool :=
  match f.threshold with
  | some level => level.weight ≤ n.level.weight
  | none => false

/-- The level of a word, which is a name in any case or a number; the word for no level is also
one. -/
def levelOf? (word : String) : Option (Option Level) :=
  match String.ofList (word.toList.map Char.toLower) with
  | "off" | "0" => some none
  | "error" | "1" => some (some .error)
  | "warn" | "2" => some (some .warn)
  | "info" | "3" => some (some .info)
  | "debug" | "4" => some (some .debug)
  | "trace" | "5" => some (some .trace)
  | _ => none

/-- What this program's topics begin with. -/
def topic : String := "clusterwatch"

/-- A directive: the topic it is for, if any, and the level. -/
structure Directive where
  topic : Option String
  level : Option Level

/-- Whether a text can be a topic. -/
def isTopic (s : String) : Bool :=
  !s.isEmpty && s.toList.all fun c => c.isAlphanum || c = '_' || c = ':' || c = '-'

/-- The directive that a text spells. A topic without a level shows everything. -/
def directive? (s : String) : Option Directive :=
  match levelOf? s with
  | some level => some ⟨none, level⟩
  | none =>
    match s.splitOn "=" with
    | [name] => if isTopic name then some ⟨some name, some .trace⟩ else none
    | [name, word] =>
      if isTopic name then (levelOf? word).map fun level => ⟨some name, level⟩ else none
    | _ => none

/-- The filter that directives make. Those for the topic count before those for all. -/
def ofDirectives (ds : List Directive) : Filter :=
  let own := ds.filter fun d => d.topic.any fun name => name.toList.isPrefixOf topic.toList
  let all := ds.filter fun d => d.topic.isNone
  match own.getLast?, all.getLast? with
  | some d, _ => ⟨d.level⟩
  | none, some d => ⟨d.level⟩
  | none, none => if ds.isEmpty then ⟨some .error⟩ else ⟨none⟩

/-- The filter that a text spells, or the standard one. -/
def ofText (s : String) : Filter :=
  let words := (s.splitOn ",").filter fun w => !w.isEmpty
  match words.mapM directive? with
  | some ds => ofDirectives ds
  | none => standard

end Filter

end MetricWatch
