import MetricWatch.Url.Basic
import MetricWatch.Proofs.Text.LetterCase
import MetricWatch.Proofs.Text.Percent

/-!
# Dot segments

A dot in a segment may be spelled `.` or `%2e`, and both spellings decode to a dot. So a segment
that is resolved decodes to one dot or two, and of the encoded texts only `.` and `..` are
resolved. The main statements are `Url.isDots_encode`, and `Url.walk_eq_iff`: a walk goes along all
of a route just when none of its segments is resolved.
-/

namespace MetricWatch.Url

open Text.Percent (decodeBytes decodeBytes_cons decodeBytes_encode encode isPlain toNat_of_isPlain
  ne_of_isPlain)
open Text.Utf8 (encode_eq encode_injective)
open Text (toNat_toLower eq_of_toLower)

/-! ### Spellings -/

/-- A spelling of a dot in a segment. -/
def IsDot (cs : List Char) : Prop := cs.map Char.toLower = ['.'] ∨ cs.map Char.toLower = "%2e".toList

lemma isDot_of_isSingleDot {cs : List Char} : isSingleDot cs = true → IsDot cs := by
  intro single
  simp only [isSingleDot, Bool.or_eq_true, decide_eq_true_eq] at single
  exact single.imp (fun isDot => by rw [isDot]; rfl) id

lemma isDot_append {cs : List Char} (first second : List Char)
    (lower : cs.map Char.toLower = first ++ second)
    (isFirst : first = ['.'] ∨ first = "%2e".toList)
    (isSecond : second = ['.'] ∨ second = "%2e".toList) :
    ∃ a b, cs = a ++ b ∧ IsDot a ∧ IsDot b := by
  obtain ⟨a, b, rfl, isA, isB⟩ := List.map_eq_append_iff.mp lower
  exact ⟨a, b, rfl, by rwa [IsDot, isA], by rwa [IsDot, isB]⟩

lemma dots_of_isDoubleDot {cs : List Char} (double : isDoubleDot cs = true) :
    ∃ a b, cs = a ++ b ∧ IsDot a ∧ IsDot b := by
  simp only [isDoubleDot, List.any_cons, List.any_nil, Bool.or_false, Bool.or_eq_true,
    decide_eq_true_eq] at double
  rcases double with lower | lower | lower | lower
  · exact isDot_append ['.'] ['.'] lower (.inl rfl) (.inl rfl)
  · exact isDot_append ['.'] "%2e".toList lower (.inl rfl) (.inr rfl)
  · exact isDot_append "%2e".toList ['.'] lower (.inr rfl) (.inl rfl)
  · exact isDot_append "%2e".toList "%2e".toList lower (.inr rfl) (.inr rfl)

/-! ### Decoding -/

lemma hexValue?_of_toLower {c : Char} (lower : c.toLower = 'e') :
    Text.Percent.hexValue? c = some 14 := by
  have code := toNat_toLower c
  rw [lower] at code
  have isE : c.toNat = 69 ∨ c.toNat = 101 := by
    change 101 = _ at code
    split_ifs at code <;> omega
  rcases isE with isE | isE <;> simp [Text.Percent.hexValue?, isE]

lemma decodeBytes_of_isDot {dot : List Char} (isDot : IsDot dot) (rest : List Char) :
    decodeBytes (dot ++ rest) = 46 :: decodeBytes rest := by
  rcases isDot with lower | lower
  · obtain ⟨c, rfl⟩ : ∃ c, dot = [c] :=
      List.length_eq_one_iff.mp (by simpa using congrArg List.length lower)
    obtain rfl : c = '.' := eq_of_toLower (List.cons.inj lower).1 (by decide)
    have bytes : Text.Utf8.encode (String.singleton '.') = [46] := by
      rw [encode_eq]
      decide
    rw [List.singleton_append, decodeBytes_cons (by decide), bytes]
    rfl
  · obtain ⟨mark, two, e, rfl⟩ : ∃ a b c, dot = [a, b, c] :=
      List.length_eq_three.mp (by simpa using congrArg List.length lower)
    obtain ⟨isMark, isTwo, isE⟩ :
        mark.toLower = '%' ∧ two.toLower = '2' ∧ e.toLower = 'e' := by simpa using lower
    obtain rfl := eq_of_toLower isMark (by decide)
    obtain rfl := eq_of_toLower isTwo (by decide)
    have two : Text.Percent.hexValue? '2' = some 2 := rfl
    simp only [List.cons_append, List.nil_append, decodeBytes, two, hexValue?_of_toLower isE]
    rfl

lemma decodeBytes_of_isSingleDot {cs : List Char} (single : isSingleDot cs = true) :
    decodeBytes cs = [46] := by
  have decoded := decodeBytes_of_isDot (isDot_of_isSingleDot single) []
  rwa [List.append_nil] at decoded

lemma decodeBytes_of_isDoubleDot {cs : List Char} (double : isDoubleDot cs = true) :
    decodeBytes cs = [46, 46] := by
  obtain ⟨a, b, rfl, isDot, isDot'⟩ := dots_of_isDoubleDot double
  have decoded := decodeBytes_of_isDot isDot' []
  rw [List.append_nil] at decoded
  rw [decodeBytes_of_isDot isDot, decoded]
  rfl

/-! ### Encoded texts -/

/-- A segment that is resolved. -/
def IsDots (segment : List Char) : Prop := isSingleDot segment = true ∨ isDoubleDot segment = true

instance (segment : List Char) : Decidable (IsDots segment) := inferInstanceAs (Decidable (_ ∨ _))

lemma isSingleDot_encode (s : String) : isSingleDot (encode s).toList = true ↔ s = "." := by
  constructor
  · intro single
    apply encode_injective
    have dot : Text.Utf8.encode "." = [46] := by
      rw [encode_eq]
      decide
    rw [dot, ← decodeBytes_encode, decodeBytes_of_isSingleDot single]
  · rintro rfl
    decide +kernel

lemma isDoubleDot_encode (s : String) : isDoubleDot (encode s).toList = true ↔ s = ".." := by
  constructor
  · intro double
    apply encode_injective
    have dots : Text.Utf8.encode ".." = [46, 46] := by
      rw [encode_eq]
      decide
    rw [dots, ← decodeBytes_encode, decodeBytes_of_isDoubleDot double]
  · rintro rfl
    decide +kernel

/-- Of the encoded texts only those of one dot and of two are resolved. -/
theorem isDots_encode (s : String) : IsDots (encode s).toList ↔ s = "." ∨ s = ".." :=
  or_congr (isSingleDot_encode s) (isDoubleDot_encode s)

/-! ### Walking along a route -/

lemma encodeSet_of_isPlain {s : String} (plain : ∀ c ∈ s.toList, isPlain c = true) :
    String.ofList (encodeSet inPathSet s.toList) = s := by
  have kept : encodeSet inPathSet s.toList = s.toList := by
    refine encodeSet_eq_self fun c mem => ?_
    obtain ⟨low, high⟩ := toNat_of_isPlain (plain c mem)
    have marks := ne_of_isPlain (plain c mem)
    have noBlank : c ≠ ' ' := by
      rintro rfl
      exact absurd low (by decide)
    simp at marks
    simp [inPathSet, inQuerySet, isControl, noBlank, marks]
    omega
  rw [kept, String.ofList_toList]

lemma length_walk_le (done : List String) (segments : List (List Char)) :
    (walk done segments).length ≤ done.length + segments.length := by
  induction segments generalizing done with
  | nil => exact Nat.le_refl _
  | cons segment rest ih =>
    have more (done' : List String) (fewer : done'.length ≤ done.length + 1) :
        (walk done' rest).length ≤ done.length + (rest.length + 1) := by
      have := ih done'
      omega
    simp only [walk, List.length_cons]
    split
    · split
      · exact more _ (by simp)
      · exact more _ (by simp; omega)
    · split
      · split <;> exact more _ (by simp)
      · exact more _ (by simp)

/-- After a segment that is resolved a walk has fewer segments, or an empty one at its end. -/
lemma walk_ne_of_isDots {done done' : List String} {s : String} {rest : List String}
    (dots : IsDots s.toList) (fewer : done'.length ≤ done.length) :
    walk (if (rest.map String.toList).isEmpty then "" :: done' else done') (rest.map String.toList)
      ≠ (s :: rest).reverse ++ done := by
  intro same
  cases rest with
  | nil =>
    have isEmpty : "" = s := (List.cons.inj same).1
    subst isEmpty
    exact absurd dots (by decide)
  | cons next rest =>
    have length := congrArg List.length same
    have most := length_walk_le done' ((next :: rest).map String.toList)
    simp at length most
    omega

/-- A walk goes along all of a route just when none of its segments is resolved. -/
theorem walk_eq_iff {route : List String} (plain : ∀ s ∈ route, ∀ c ∈ s.toList, isPlain c = true)
    (done : List String) :
    walk done (route.map String.toList) = route.reverse ++ done ↔
      ∀ s ∈ route, ¬ IsDots s.toList := by
  induction route generalizing done with
  | nil => simp [walk]
  | cons s rest ih =>
    have rest_ := ih (fun t mem => plain t (List.mem_cons_of_mem _ mem)) (s :: done)
    have resolved (dots : IsDots s.toList) : ¬ ∀ t ∈ s :: rest, ¬ IsDots t.toList :=
      fun noDots => noDots s List.mem_cons_self dots
    rw [List.map_cons, walk]
    by_cases double : isDoubleDot s.toList = true
    · have dots : IsDots s.toList := .inr double
      rw [if_pos double]
      exact iff_of_false (walk_ne_of_isDots dots (by simp)) (resolved dots)
    · by_cases single : isSingleDot s.toList = true
      · have dots : IsDots s.toList := .inl single
        rw [if_neg double, if_pos single]
        exact iff_of_false (walk_ne_of_isDots dots (Nat.le_refl _)) (resolved dots)
      · have noDots : ¬ IsDots s.toList := fun dots => dots.elim single double
        rw [if_neg double, if_neg single, encodeSet_of_isPlain (plain s List.mem_cons_self),
          List.reverse_cons, List.append_assoc, List.singleton_append, rest_, List.forall_mem_cons]
        exact (and_iff_right noDots).symm

end MetricWatch.Url
