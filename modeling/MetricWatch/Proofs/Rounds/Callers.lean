import MetricWatch.Proofs.Rounds.Orderly

/-!
# Callers

A caller in the background calls once. If it is admitted to a round it waits for this round and for
no other, and gets what the round brought, unless it gives up. The main statement is
`Run.attended`.
-/

namespace MetricWatch

open Timeline

/-! ### Admissions -/

/-- The round to which a mark admits someone. -/
def Mark.admission? (who : Option Nat) : Mark → Option (RoundKind × Nat)
  | .joined w kind round => if w = who then some (kind, round) else none
  | .started w kind round _ => if w = who then some (kind, round) else none
  | _ => none

/-- The rounds to which someone was admitted, latest first. -/
def admissions (who : Option Nat) (marks : List Mark) : List (RoundKind × Nat) :=
  marks.filterMap (Mark.admission? who)

/-- How a caller in the background stands to the rounds to which it was admitted. -/
inductive Attendance (store : Store) (c : Caller) : List (RoundKind × Nat) → Prop
  | begun (stage : c.stage = .begun) : Attendance store c []
  | declined (stage : c.stage = .finished (notAdmitted c.kind)) : Attendance store c []
  | waiting {round : Nat} (stage : c.stage = .waiting round) : Attendance store c [(c.kind, round)]
  | served {round : Nat} {result : CallResult} (stage : c.stage = .finished result)
      (ended : store.result? c.kind round = some result) : Attendance store c [(c.kind, round)]
  | abandoned {rounds : List (RoundKind × Nat)} (stage : c.stage = .aborted)
      (own : ∀ x ∈ rounds, x.1 = c.kind) (atMostOne : rounds.length ≤ 1) :
      Attendance store c rounds

namespace Attendance

variable {store store' : Store} {c : Caller} {rounds : List (RoundKind × Nat)}

/-- What callers get stays what it is while results stay. -/
lemma mono (h : Attendance store c rounds)
    (keeps : ∀ kind round result, store.result? kind round = some result →
      store'.result? kind round = some result) : Attendance store' c rounds := by
  cases h with
  | begun stage => exact .begun stage
  | declined stage => exact .declined stage
  | waiting stage => exact .waiting stage
  | served stage ended => exact .served stage (keeps _ _ _ ended)
  | abandoned stage own atMostOne => exact .abandoned stage own atMostOne

lemma rounds_of_begun (h : Attendance store c rounds) (begun : c.stage = .begun) :
    rounds = [] := by
  cases h with
  | begun | declined => rfl
  | waiting stage | served stage | abandoned stage =>
    rw [begun] at stage
    cases stage

lemma rounds_of_waiting (h : Attendance store c rounds) {round : Nat}
    (waiting : c.stage = .waiting round) : rounds = [(c.kind, round)] := by
  cases h with
  | waiting stage =>
    rw [waiting] at stage
    cases stage
    rfl
  | begun stage | declined stage | served stage | abandoned stage =>
    rw [waiting] at stage
    cases stage

/-- A caller that gives up keeps what it has. -/
lemma abandon (h : Attendance store c rounds) : Attendance store
    (match c.stage with
      | .finished _ => c
      | _ => { c with stage := .aborted }) rounds := by
  cases h with
  | begun stage =>
    rw [stage]
    exact .abandoned rfl (by simp) (by simp)
  | declined stage =>
    rw [stage]
    exact .declined stage
  | waiting stage =>
    rw [stage]
    exact .abandoned rfl (by simp) (by simp)
  | served stage ended =>
    rw [stage]
    exact .served stage ended
  | abandoned stage own atMostOne =>
    rw [stage]
    exact .abandoned rfl own atMostOne

end Attendance

namespace Timeline

variable {σ : Type} {S : Source σ} {t : Timeline σ} {marks : List Mark} {w w' : Work} {m : Mark}

/-- Every caller in the background stands well to its rounds, callers are told apart by their
numbers, and nobody else was admitted under a number. -/
structure Attended (marks : List Mark) (w : Work) : Prop where
  attendance : ∀ c ∈ w.callers, Attendance w.store c (admissions (some c.id) marks)
  unique : ∀ c ∈ w.callers, ∀ c' ∈ w.callers, c.id = c'.id → c = c'
  given : ∀ c ∈ w.callers, c.id < w.callers.length
  strangers : ∀ id, (∀ c ∈ w.callers, c.id ≠ id) → admissions (some id) marks = []

namespace Attended

lemma fresh (h : w.IsFresh) : Attended [] w := by
  obtain ⟨session, directory, namesNamespace, capacity, rfl⟩ := h
  exact ⟨by simp, by simp, by simp, fun _ _ => rfl⟩

/-- A move that admits nobody in the background and leaves the callers leaves the attendance. -/
lemma frame (h : Attended marks w) (quiet : ∀ id, m.admission? (some id) = none)
    (callers : w'.callers = w.callers)
    (keeps : ∀ kind round result, w.store.result? kind round = some result →
      w'.store.result? kind round = some result) : Attended (m :: marks) w' := by
  have same (id : Nat) : admissions (some id) (m :: marks) = admissions (some id) marks :=
    List.filterMap_cons_none (quiet id)
  refine ⟨?_, ?_, ?_, ?_⟩
  · intro c isThere
    rw [same]
    exact (h.attendance c (callers ▸ isThere)).mono keeps
  · rw [callers]
    exact h.unique
  · rw [callers]
    exact h.given
  · intro id isStranger
    rw [same]
    exact h.strangers id (callers ▸ isStranger)

lemma find?_caller (h : Attended marks w) {c : Caller} (isThere : c ∈ w.callers) :
    w.callers.find? (fun c' => c'.id = c.id) = some c := by
  cases found : w.callers.find? (fun c' => c'.id = c.id) with
  | none => exact absurd (List.find?_eq_none.mp found c isThere) (by simp)
  | some c' =>
    have same : c'.id = c.id := by simpa using List.find?_some found
    rw [h.unique c' (List.mem_of_find?_eq_some found) c isThere same]

/-- When one caller changes, only this caller has to be looked at. -/
lemma change_one (h : Attended marks w) {id : Nat} {later : List Mark}
    (change : Caller → Caller) (sameId : ∀ c, (change c).id = c.id)
    (callers : w'.callers = w.callers.map fun c => if c.id = id then change c else c)
    (keeps : ∀ kind round result, w.store.result? kind round = some result →
      w'.store.result? kind round = some result)
    (others : ∀ other, other ≠ id → admissions (some other) later = admissions (some other) marks)
    (stranger : (∀ c ∈ w.callers, c.id ≠ id) → admissions (some id) later = [])
    (attendance : ∀ c ∈ w.callers, c.id = id →
      Attendance w'.store (change c) (admissions (some id) later)) : Attended later w' := by
  -- Numbers stay, so whoever has the number afterwards had it before.
  have ids (c : Caller) : (if c.id = id then change c else c).id = c.id := by
    split
    · exact sameId c
    · rfl
  have length : w'.callers.length = w.callers.length := by rw [callers, List.length_map]
  refine ⟨?_, ?_, ?_, ?_⟩
  · rw [callers]
    refine List.forall_mem_map.mpr fun c isThere => ?_
    rw [ids]
    split
    next own =>
      rw [own]
      exact attendance c isThere own
    next other =>
      rw [others _ other]
      exact (h.attendance c isThere).mono keeps
  · rw [callers]
    refine List.forall_mem_map.mpr fun c isThere => List.forall_mem_map.mpr fun c' isThere' same => ?_
    rw [ids, ids] at same
    rw [h.unique c isThere c' isThere' same]
  · rw [length, callers]
    refine List.forall_mem_map.mpr fun c isThere => ?_
    rw [ids]
    exact h.given c isThere
  · intro other isStranger
    have before (c : Caller) (isThere : c ∈ w.callers) : c.id ≠ other := by
      rw [← ids]
      exact isStranger _ (callers ▸ List.mem_map_of_mem isThere)
    by_cases own : other = id
    · subst own
      exact stranger before
    · rw [others other own]
      exact h.strangers other before

/-- A caller that has only begun makes its call. -/
lemma call (h : Attended marks w) {c : Caller} (isThere : c ∈ w.callers) (begun : c.stage = .begun)
    {stage : CallerStage} (callers : w'.callers = (w.setCaller c.id stage).callers)
    (keeps : ∀ kind round result, w.store.result? kind round = some result →
      w'.store.result? kind round = some result)
    (others : ∀ other, other ≠ c.id → m.admission? (some other) = none)
    (rounds : List (RoundKind × Nat))
    (own : admissions (some c.id) (m :: marks) = rounds ++ admissions (some c.id) marks)
    (attendance : Attendance w'.store { c with stage := stage } rounds) :
    Attended (m :: marks) w' := by
  refine h.change_one (fun c => { c with stage := stage }) (fun _ => rfl) callers keeps
    (fun other ne => List.filterMap_cons_none (others other ne))
    (fun isStranger => absurd rfl (isStranger c isThere)) fun c' isThere' same => ?_
  obtain rfl := h.unique c' isThere' c isThere same
  have before := (h.attendance c' isThere').rounds_of_begun begun
  rw [own, before, List.append_nil]
  exact attendance

lemma change (h : Attended marks w) (change : Change w m w')
    (keeps : ∀ kind round result, w.store.result? kind round = some result →
      w'.store.result? kind round = some result) : Attended (m :: marks) w' := by
  cases change with
  | @declined who kind mayCall refused =>
    cases who with
    | none => exact h.frame (fun _ => rfl) rfl keeps
    | some id =>
      obtain ⟨c, isThere, rfl, rfl, begun⟩ := mayCall id rfl
      exact h.call isThere begun rfl keeps (fun _ _ => rfl) [] rfl (.declined rfl)
  | @joined who kind round items mayCall admitted occupied =>
    cases who with
    | none => exact h.frame (fun _ => rfl) rfl keeps
    | some id =>
      obtain ⟨c, isThere, rfl, rfl, begun⟩ := mayCall id rfl
      refine h.call isThere begun rfl keeps (fun other ne => ?_) [(c.kind, round)] ?_
        (.waiting rfl)
      · simp [Mark.admission?, Ne.symm ne]
      · simp [admissions, Mark.admission?]
  | @started who kind items mayCall admitted vacant =>
    cases who with
    | none => exact h.frame (fun _ => rfl) rfl keeps
    | some id =>
      obtain ⟨c, isThere, rfl, rfl, begun⟩ := mayCall id rfl
      refine h.call isThere begun rfl keeps (fun other ne => ?_)
        [(c.kind, w.store.nextRound c.kind)] ?_ (.waiting rfl)
      · simp [Mark.admission?, Ne.symm ne]
      · simp [admissions, Mark.admission?]
  | @served c round result isThere waiting ended =>
    refine h.change_one (fun c => { c with stage := .finished result }) (fun _ => rfl) rfl keeps
      (fun _ _ => rfl) (h.strangers c.id) fun c' isThere' same => ?_
    obtain rfl := h.unique c' isThere' c isThere same
    have rounds := (h.attendance c' isThere').rounds_of_waiting waiting
    rw [show admissions _ (_ :: marks) = _ from rounds]
    exact .served rfl ended
  | spawned kind =>
    have mem {c : Caller} (isThere : c ∈ (w.spawn kind).callers) :
        c ∈ w.callers ∨ c = ⟨w.callers.length, kind, .begun⟩ := by simpa [Work.spawn] using isThere
    have length : (w.spawn kind).callers.length = w.callers.length + 1 := by simp [Work.spawn]
    refine ⟨?_, ?_, ?_, ?_⟩
    · intro c isThere
      rcases mem isThere with old | rfl
      · exact h.attendance c old
      · have never := h.strangers w.callers.length fun c old => Nat.ne_of_lt (h.given c old)
        rw [show admissions _ (_ :: marks) = _ from never]
        exact .begun rfl
    · intro c isThere c' isThere' same
      rcases mem isThere with old | rfl <;> rcases mem isThere' with old' | rfl
      · exact h.unique c old c' old' same
      · exact absurd same (Nat.ne_of_lt (h.given c old))
      · exact absurd same.symm (Nat.ne_of_lt (h.given c' old'))
      · rfl
    · intro c isThere
      rw [length]
      rcases mem isThere with old | rfl
      · exact Nat.lt_succ_of_lt (h.given c old)
      · exact Nat.lt_succ_self _
    · intro id isStranger
      exact h.strangers id fun c old => isStranger c (List.mem_append_left _ old)
  | abandoned id =>
    refine h.change_one (fun c => match c.stage with
      | .finished _ => c
      | _ => { c with stage := .aborted }) ?_ rfl keeps (fun _ _ => rfl) (h.strangers id) ?_
    · intro c
      cases stage : c.stage <;> simp
    · rintro c isThere rfl
      exact (h.attendance c isThere).abandon
  | asked | delayed | ended | chore | aside => exact h.frame (fun _ => rfl) rfl keeps

end Attended

/-- Callers in the background are attended to all along a run. -/
theorem Run.attended (run : Run S marks t) : Attended marks t.work := by
  refine (run.induct (P := fun marks w => Orderly marks w ∧ Attended marks w)
    (fun _ fresh => ⟨.fresh fresh, .fresh fresh⟩) ?_).2
  rintro marks w m w' ⟨orderly, attended⟩ change
  exact ⟨orderly.change change, attended.change change fun _ _ _ => orderly.keeps change⟩

end Timeline

end MetricWatch
