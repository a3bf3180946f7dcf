import MetricWatch.Proofs.Rounds.Move

/-!
# Records

What the record of a run says of the rounds of one kind: which of them started, which asked their
questions and what these brought, and which ended. All these lists are latest first, as the record
is.
-/

namespace MetricWatch

/-! ### What a mark says -/

namespace Mark

/-- The round of a kind that a mark starts, with what the round asks for. -/
def start? (kind : RoundKind) : Mark → Option (Nat × List String)
  | .started _ k round items => if k = kind then some (round, items) else none
  | _ => none

/-- The round of a kind whose questions a mark asks, with what they ask for. -/
def request? (kind : RoundKind) : Mark → Option (Nat × List String)
  | .asked k round items _ => if k = kind then some (round, items) else none
  | _ => none

/-- The round of a kind whose questions a mark asks, with what they bring. -/
def answer? (kind : RoundKind) : Mark → Option (Nat × Gathered)
  | .asked k round _ gathered => if k = kind then some (round, gathered) else none
  | _ => none

/-- The round of a kind that a mark ends, with what the round brought. -/
def end? (kind : RoundKind) : Mark → Option (Nat × Gathered)
  | .ended k round _ gathered _ => if k = kind then some (round, gathered) else none
  | _ => none

end Mark

/-! ### What a record says -/

/-- The rounds of a kind that started, latest first. -/
def starts (kind : RoundKind) (marks : List Mark) : List (Nat × List String) :=
  marks.filterMap (Mark.start? kind)

/-- The rounds of a kind that asked their questions, latest first. -/
def requests (kind : RoundKind) (marks : List Mark) : List (Nat × List String) :=
  marks.filterMap (Mark.request? kind)

/-- What the questions of the rounds of a kind brought, latest first. -/
def answers (kind : RoundKind) (marks : List Mark) : List (Nat × Gathered) :=
  marks.filterMap (Mark.answer? kind)

/-- The rounds of a kind that ended, latest first. -/
def ends (kind : RoundKind) (marks : List Mark) : List (Nat × Gathered) :=
  marks.filterMap (Mark.end? kind)

section

variable (kind : RoundKind) (round : Nat) (items : List String) (gathered : Gathered)
  (marks : List Mark)

@[simp] lemma starts_append (later : List Mark) :
    starts kind (later ++ marks) = starts kind later ++ starts kind marks :=
  List.filterMap_append

@[simp] lemma requests_append (later : List Mark) :
    requests kind (later ++ marks) = requests kind later ++ requests kind marks :=
  List.filterMap_append

@[simp] lemma ends_append (later : List Mark) :
    ends kind (later ++ marks) = ends kind later ++ ends kind marks :=
  List.filterMap_append

@[simp] lemma starts_started (who : Option Nat) :
    starts kind (.started who kind round items :: marks) = (round, items) :: starts kind marks := by
  simp [starts, Mark.start?]

@[simp] lemma requests_asked :
    requests kind (.asked kind round items gathered :: marks)
      = (round, items) :: requests kind marks := by
  simp [requests, Mark.request?]

@[simp] lemma answers_asked :
    answers kind (.asked kind round items gathered :: marks)
      = (round, gathered) :: answers kind marks := by
  simp [answers, Mark.answer?]

@[simp] lemma ends_ended (time : Nat) (result : CallResult) :
    ends kind (.ended kind round time gathered result :: marks)
      = (round, gathered) :: ends kind marks := by
  simp [ends, Mark.end?]

end

lemma mem_starts {kind : RoundKind} {round : Nat} {items : List String} {marks : List Mark} :
    (round, items) ∈ starts kind marks ↔ ∃ who, .started who kind round items ∈ marks := by
  constructor
  · intro mem
    obtain ⟨m, isMark, starting⟩ := List.mem_filterMap.mp mem
    cases m with
    | started who k r items' =>
      simp only [Mark.start?, Option.ite_none_right_eq_some, Option.some.injEq, Prod.mk.injEq]
        at starting
      obtain ⟨rfl, rfl, rfl⟩ := starting
      exact ⟨who, isMark⟩
    | _ => cases starting
  · rintro ⟨who, mem⟩
    exact List.mem_filterMap.mpr ⟨_, mem, by simp [Mark.start?]⟩

lemma mem_ends {kind : RoundKind} {round : Nat} {g : Gathered} {marks : List Mark} :
    (round, g) ∈ ends kind marks ↔ ∃ time result, .ended kind round time g result ∈ marks := by
  constructor
  · intro mem
    obtain ⟨m, isMark, ending⟩ := List.mem_filterMap.mp mem
    cases m with
    | ended k r time g' result =>
      simp only [Mark.end?, Option.ite_none_right_eq_some, Option.some.injEq, Prod.mk.injEq]
        at ending
      obtain ⟨rfl, rfl, rfl⟩ := ending
      exact ⟨time, result, isMark⟩
    | _ => cases ending
  · rintro ⟨time, result, mem⟩
    exact List.mem_filterMap.mpr ⟨_, mem, by simp [Mark.end?]⟩

lemma mem_answers {kind : RoundKind} {round : Nat} {g : Gathered} {marks : List Mark} :
    (round, g) ∈ answers kind marks ↔ ∃ items, .asked kind round items g ∈ marks := by
  constructor
  · intro mem
    obtain ⟨m, isMark, asking⟩ := List.mem_filterMap.mp mem
    cases m with
    | asked k r items g' =>
      simp only [Mark.answer?, Option.ite_none_right_eq_some, Option.some.injEq, Prod.mk.injEq]
        at asking
      obtain ⟨rfl, rfl, rfl⟩ := asking
      exact ⟨items, isMark⟩
    | _ => cases asking
  · rintro ⟨items, mem⟩
    exact List.mem_filterMap.mpr ⟨_, mem, by simp [Mark.answer?]⟩

/-- What is read off the ends of rounds of a kind comes from different rounds, in their order. -/
lemma sublist_ends {β : Type} {kind : RoundKind} {read : Mark → Option β} {round : β → Nat}
    (isEnd : ∀ m x, read m = some x → ∃ time g result, m = .ended kind (round x) time g result)
    (marks : List Mark) :
    ((marks.filterMap read).map round).Sublist ((ends kind marks).map Prod.fst) := by
  induction marks with
  | nil => exact .slnil
  | cons m marks ih =>
    cases found : read m with
    | none =>
      rw [List.filterMap_cons_none found]
      exact ih.trans (((List.sublist_cons_self m marks).filterMap _).map _)
    | some x =>
      obtain ⟨time, g, result, rfl⟩ := isEnd m x found
      rw [List.filterMap_cons_some found, ends_ended]
      exact ih.cons_cons _

end MetricWatch
