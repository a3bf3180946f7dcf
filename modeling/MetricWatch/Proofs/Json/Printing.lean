import MetricWatch.Proofs.Json.Objects

/-!
# Printed trees are scanned again

A tree without breaks whose numbers are whole is printed as a text in which the scanner finds that
tree and nothing behind it, whatever characters its strings hold. The members of objects may stand
in any order and under equal keys. The main statement is `Tree.scan_print`.
-/

namespace MetricWatch.Json

/-! ### Trees that are printed -/

mutual

/-- A printed tree. Parts of it that have no text are printed as null. -/
def Tree.print : Tree → List Char
  | .bool b => if b then "true".toList else "false".toList
  | .number (some n) => printNumber n
  | .string (some s) => printString s
  | .array items _ => '[' :: (separated (Tree.printAll items) ++ [']'])
  | .object members _ => '\x7b' :: (separated (Tree.printMembers members) ++ ['\x7d'])
  | _ => "null".toList

/-- Printed trees. -/
def Tree.printAll : List Tree → List (List Char)
  | [] => []
  | t :: rest => t.print :: Tree.printAll rest

/-- Printed members, those under no text left out. -/
def Tree.printMembers : List (Key × Tree) → List (List Char)
  | [] => []
  | (.text key, t) :: rest => (printString key ++ ':' :: t.print) :: Tree.printMembers rest
  | _ :: rest => Tree.printMembers rest

end

mutual

/-- A value is printed as its tree is. -/
theorem Value.print_toTree : (v : Value) → v.toTree.print = v.print
  | .null | .bool _ | .number _ | .string _ => rfl
  | .array items => by rw [toTree, Tree.print, print, printAll_listToTrees items]
  | .object members => by rw [toTree, Tree.print, print, printMembers_membersToTrees members]

theorem Value.printAll_listToTrees : (items : List Value) →
    Tree.printAll (listToTrees items) = printAll items
  | [] => rfl
  | v :: rest => by
    rw [listToTrees, Tree.printAll, printAll, print_toTree v, printAll_listToTrees rest]

theorem Value.printMembers_membersToTrees : (members : Members Value) →
    Tree.printMembers (membersToTrees members) = printMembers members
  | [] => rfl
  | (key, v) :: rest => by
    rw [membersToTrees, Tree.printMembers, printMembers, print_toTree v,
      printMembers_membersToTrees rest]

end

end MetricWatch.Json

namespace MetricWatch

/-- Whether a number is an integer of 64 bits. -/
def Number.whole : Number → Bool
  | .nat n => decide (n < 2 ^ 64)
  | .neg n => decide (-2 ^ 63 ≤ n ∧ n < 0)
  | .float _ => false

end MetricWatch

namespace MetricWatch.Json

mutual

/-- Whether a tree has no break, no string without a text and no number but whole ones. -/
def Tree.plain : Tree → Bool
  | .null | .bool _ | .string (some _) => true
  | .number (some n) => n.whole
  | .array items ending => decide (ending = .closed) && Tree.allPlain items
  | .object members ending => decide (ending = .closed) && Tree.membersPlain members
  | _ => false

/-- Whether all trees of a list are plain. -/
def Tree.allPlain : List Tree → Bool
  | [] => true
  | t :: rest => t.plain && Tree.allPlain rest

/-- Whether all members of an object stand under texts and are plain. -/
def Tree.membersPlain : List (Key × Tree) → Bool
  | [] => true
  | (.text _, t) :: rest => t.plain && Tree.membersPlain rest
  | _ :: _ => false

end

lemma Tree.plain_array {items : List Tree} {ending : Ending} :
    (Tree.array items ending).plain = true ↔ ending = .closed ∧ ∀ t ∈ items, t.plain = true := by
  rw [Tree.plain, Bool.and_eq_true, decide_eq_true_eq]
  refine and_congr_right fun _ => ?_
  induction items with
  | nil => exact iff_of_true rfl nofun
  | cons t rest ih => rw [allPlain, Bool.and_eq_true, ih, List.forall_mem_cons]

lemma Tree.plain_object {members : Members Tree} {ending : Ending} :
    (Tree.object (named members) ending).plain = true ↔
      ending = .closed ∧ ∀ m ∈ members, m.2.plain = true := by
  rw [Tree.plain, Bool.and_eq_true, decide_eq_true_eq]
  refine and_congr_right fun _ => ?_
  induction members with
  | nil => exact iff_of_true rfl nofun
  | cons m rest ih =>
    rw [named, List.map_cons, membersPlain, Bool.and_eq_true, List.forall_mem_cons]
    exact and_congr_right fun _ => ih

namespace Scanner

variable {stack : List Frame} {t : Tree} {state : State} {c : Char} {cs : List Char}

/-! ### Runs -/

/-- The state after some characters of a text. -/
def run (state : State) (cs : List Char) : State := cs.foldl (fun s c => step s (some c)) state

@[simp] lemma run_nil : run state [] = state := rfl

@[simp] lemma run_cons : run state (c :: cs) = run (step state (some c)) cs := rfl

lemma run_append (state : State) (cs cs' : List Char) :
    run state (cs ++ cs') = run (run state cs) cs' := List.foldl_append

/-- The state after what follows a value is that behind the value. -/
lemma step_emit (stack : List Frame) (t : Tree) (c : Char) :
    step (emit stack t) (some c) = resume (emit stack t) c := by
  cases stack with
  | nil => rfl
  | cons frame below => cases frame <;> rfl

/-- Whether a scan has just read a value, a numeral perhaps not to its end. -/
inductive Ends (stack : List Frame) (t : Tree) : State → Prop
  | emitted : Ends stack t (emit stack t)
  | numeral {digits : Digits} {stage : Stage} (may : stage.mayEnd = true)
      (same : t = .number digits.numeral.value?) : Ends stack t (.inNumeral stack digits stage)

/-- What ends a value that may be a numeral. -/
def isEnd (c : Char) : Bool := c = ',' || c = ']' || c = '\x7d'

lemma Ends.step (ends : Ends stack t state) (isEnd : isEnd c = true) :
    step state (some c) = resume (emit stack t) c := by
  cases ends with
  | emitted => exact step_emit stack t c
  | @numeral digits stage may same =>
    obtain ⟨noDigit, noSign⟩ : digit? c = none ∧ digits.sign? c stage = none := by
      rw [Scanner.isEnd, Bool.or_eq_true, Bool.or_eq_true, decide_eq_true_eq, decide_eq_true_eq,
        decide_eq_true_eq] at isEnd
      rcases isEnd with (rfl | rfl) | rfl <;> exact ⟨rfl, by cases stage <;> rfl⟩
    subst same
    change stepNumeral stack digits stage c = _
    simp only [stepNumeral, noDigit, noSign, may, Option.isNone_none, Bool.and_self, if_true]

lemma Ends.finish (ends : Ends [] t state) : finish state = ⟨t, true⟩ := by
  cases ends with
  | emitted => rfl
  | numeral may same =>
    rw [Scanner.finish, if_pos may, same]
    rfl

/-- Whether a text is scanned as a tree wherever a value may stand. -/
def Spells (cs : List Char) (t : Tree) : Prop :=
  ∃ c rest, cs = c :: rest ∧ isSpace c = false ∧ c ≠ ']' ∧
    ∀ stack, Ends stack t (run (beginValue stack c) rest)

lemma Spells.ends (spells : Spells cs t) (stack : List Frame) :
    Ends stack t (run (.between stack .value) cs) := by
  obtain ⟨c, rest, rfl, noSpace, -, ends⟩ := spells
  have begins : Scanner.step (.between stack .value) (some c) = beginValue stack c := by
    change stepBetween stack .value c = _
    simp [stepBetween, noSpace]
  rw [run_cons, begins]
  exact ends stack

lemma Spells.ends_first (spells : Spells cs t) (below : List Frame) :
    Ends (.array [] :: below) t (run (.between (.array [] :: below) .firstItem) cs) := by
  obtain ⟨c, rest, rfl, noSpace, notClosed, ends⟩ := spells
  have begins : Scanner.step (.between (.array [] :: below) .firstItem) (some c)
      = beginValue (.array [] :: below) c := by
    change stepBetween _ .firstItem c = _
    simp [stepBetween, noSpace, notClosed]
  rw [run_cons, begins]
  exact ends _

/-! ### Words -/

lemma spells_null : Spells "null".toList .null :=
  ⟨'n', ['u', 'l', 'l'], rfl, rfl, by decide, fun _ => .emitted⟩

lemma spells_bool : (b : Bool) → Spells (Tree.bool b).print (.bool b)
  | true => ⟨'t', ['r', 'u', 'e'], rfl, rfl, by decide, fun _ => .emitted⟩
  | false => ⟨'f', ['a', 'l', 's', 'e'], rfl, rfl, by decide, fun _ => .emitted⟩

/-! ### Numerals -/

/-- The value of a digit. -/
lemma digit?_digitChar {d : Nat} (small : d < 10) : digit? d.digitChar = some d := by
  have all : ∀ d < 10, digit? d.digitChar = some d := by decide
  exact all d small

/-- Whether a scan has read the digits of a number. -/
inductive Counts (stack : List Frame) (negative : Bool) (n : Nat) : State → Prop
  | zero (isZero : n = 0) :
      Counts stack negative n (.inNumeral stack ⟨negative, [0], none, none⟩ .zero)
  | more {ds : List Nat} (positive : n ≠ 0) (same : Numeral.digitsValue 0 ds.reverse = n) :
      Counts stack negative n (.inNumeral stack ⟨negative, ds, none, none⟩ .whole)

/-- The state after the first digit of a numeral. -/
def firstDigit (stack : List Frame) (negative : Bool) (d : Nat) : State :=
  .inNumeral stack ⟨negative, [d], none, none⟩ (if d = 0 then .zero else .whole)

/-- The digits of a number are scanned as that number. -/
lemma counts_toDigits (n : Nat) : ∃ d rest, Nat.toDigits 10 n = Nat.digitChar d :: rest ∧ d < 10 ∧
    ∀ stack negative, Counts stack negative n (run (firstDigit stack negative d) rest) := by
  induction n using Nat.strongRecOn with
  | ind n ih =>
    by_cases small : n < 10
    · refine ⟨n, [], Nat.toDigits_of_lt_base small, small, fun stack negative => ?_⟩
      rw [run_nil, firstDigit]
      by_cases isZero : n = 0
      · subst isZero
        exact .zero rfl
      · rw [if_neg isZero]
        exact .more isZero (by simp [Numeral.digitsValue])
    · obtain ⟨d, rest, digits, isDigit, counts⟩ := ih (n / 10) (by omega)
      refine ⟨d, rest ++ [(n % 10).digitChar], ?_, isDigit, fun stack negative => ?_⟩
      · rw [Nat.toDigits_of_base_le (by decide) (by omega), digits, List.cons_append]
      · rw [run_append, run_cons, run_nil]
        have counts := counts stack negative
        generalize run (firstDigit stack negative d) rest = state at counts
        cases counts with
        | zero isZero => omega
        | @more ds _ same =>
          have next : step (.inNumeral stack ⟨negative, ds, none, none⟩ .whole)
              (some (n % 10).digitChar)
                = .inNumeral stack ⟨negative, n % 10 :: ds, none, none⟩ .whole := by
            change stepNumeral _ _ _ _ = _
            rw [stepNumeral, digit?_digitChar (by omega)]
            rfl
          have value : Numeral.digitsValue 0 (n % 10 :: ds).reverse = n := by
            rw [List.reverse_cons, Numeral.digitsValue, List.foldl_append]
            change 10 * Numeral.digitsValue 0 ds.reverse + n % 10 = n
            omega
          rw [next]
          exact .more (by omega) value

/-- A number with few enough digits is the value of its numeral. -/
lemma Counts.ends {negative : Bool} {n : Nat} {number : Number}
    (counts : Counts stack negative n state)
    (value : ∀ whole, Numeral.digitsValue 0 whole = n →
      Numeral.value? ⟨negative, whole, none, none⟩ = some number) :
    Ends stack (.number (some number)) state := by
  cases counts with
  | zero isZero => exact .numeral rfl (congrArg Tree.number (value [0] isZero.symm).symm)
  | more _ same => exact .numeral rfl (congrArg Tree.number (value _ same).symm)

lemma beginValue_digit {d : Nat} (small : d < 10) :
    beginValue stack d.digitChar = firstDigit stack false d := by
  match d, small with
  | 0, _ | 1, _ | 2, _ | 3, _ | 4, _ | 5, _ | 6, _ | 7, _ | 8, _ | 9, _ => rfl

lemma spells_nat {n : Nat} (small : n < 2 ^ 64) :
    Spells (printNumber (.nat n)) (.number (some (.nat n))) := by
  obtain ⟨d, rest, digits, isDigit, counts⟩ := counts_toDigits n
  have printed : printNumber (.nat n) = Nat.digitChar d :: rest := Nat.toList_repr.trans digits
  have starts : ∀ d < 10, isSpace (Nat.digitChar d) = false ∧ Nat.digitChar d ≠ ']' := by decide
  refine ⟨_, rest, printed, (starts d isDigit).1, (starts d isDigit).2, fun stack => ?_⟩
  rw [beginValue_digit isDigit]
  refine (counts stack false).ends fun whole value => ?_
  have few : ¬ Numeral.maxNat < n := by
    simp only [Numeral.maxNat, Nat.pow_eq]
    omega
  simp only [Numeral.value?, value, if_neg few, Bool.false_eq_true, if_false]

lemma spells_neg {n : Int} (least : -2 ^ 63 ≤ n) (negative : n < 0) :
    Spells (printNumber (.neg n)) (.number (some (.neg n))) := by
  obtain ⟨m, rfl⟩ := Int.eq_negSucc_of_lt_zero negative
  obtain ⟨d, rest, digits, isDigit, counts⟩ := counts_toDigits (m + 1)
  have printed : printNumber (.neg (Int.negSucc m)) = '-' :: Nat.digitChar d :: rest := by
    rw [← digits, ← Nat.toList_repr]
    exact String.toList_append
  refine ⟨'-', Nat.digitChar d :: rest, printed, rfl, by decide, fun stack => ?_⟩
  have begins : run (beginValue stack '-') (Nat.digitChar d :: rest)
      = run (firstDigit stack true d) rest := by
    change run (stepNumeral stack ⟨true, [], none, none⟩ .sign (Nat.digitChar d)) rest = _
    rw [stepNumeral, digit?_digitChar isDigit]
    rfl
  rw [begins]
  refine (counts stack true).ends fun whole value => ?_
  have few : ¬ Numeral.maxNat < m + 1 := by
    simp only [Numeral.maxNat, Nat.pow_eq]
    omega
  have fits : ¬ (m + 1 = 0 ∨ Nat.pow 2 63 < m + 1) := by
    simp only [Nat.pow_eq]
    omega
  simp only [Numeral.value?, value, if_neg few, if_true, if_neg fits]
  rfl

lemma spells_number {n : Number} (whole : n.whole = true) :
    Spells (printNumber n) (.number (some n)) := by
  cases n with
  | nat n => exact spells_nat (of_decide_eq_true whole)
  | neg n =>
    obtain ⟨least, negative⟩ := of_decide_eq_true whole
    exact spells_neg least negative
  | float x => cases whole

/-! ### Strings -/

/-- Whether a piece of a string stands for a character. -/
def Means (p : Piece) (c : Char) : Prop := ∀ rest, textOf? (p :: rest) = (textOf? rest).map (c :: ·)

lemma means_char (c : Char) : Means (.char c) c := fun _ => rfl

lemma means_unit {c : Char} (low : c.toNat < 0xd800) : Means (.unit c.toNat) c := by
  intro rest
  rw [textOf?.eq_def]
  refine (if_pos (by simp [low])).trans ?_
  rw [Char.ofNat_toNat]

lemma hexValue?_hexDigit (n : Nat) : hexValue? (hexDigit n) = some (n % 16) := by
  have all : ∀ d < 16, hexValue? (Nat.digitChar d) = some d := by decide
  exact all (n % 16) (Nat.mod_lt n (by decide))

/-- A character is printed as a short escape, as a long one, or as it is. -/
lemma printChar_cases (c : Char) :
    (∃ letter, printChar c = ['\\', letter] ∧ simpleEscape? letter = some c ∧ letter ≠ 'u') ∨
    (printChar c = ['\\', 'u', '0', '0', hexDigit (c.toNat / 16), hexDigit c.toNat] ∧
      c.toNat < 0x20) ∨
    printChar c = [c] ∧ c ≠ '"' ∧ c ≠ '\\' ∧ ¬ c.toNat < 0x20 := by
  have short (letter : Char) {d : Char} (isEscape : simpleEscape? letter = some d)
      (notUnit : letter ≠ 'u') :
      ∃ letter', ['\\', letter] = ['\\', letter'] ∧ simpleEscape? letter' = some d ∧
        letter' ≠ 'u' :=
    ⟨letter, rfl, isEscape, notUnit⟩
  unfold printChar
  by_cases quote : c = '"'
  · exact .inl (by subst quote; exact short '"' rfl (by decide))
  by_cases backslash : c = '\\'
  · exact .inl (by subst backslash; exact short '\\' rfl (by decide))
  by_cases backspace : c = '\x08'
  · exact .inl (by subst backspace; exact short 'b' rfl (by decide))
  by_cases feed : c = '\x0c'
  · exact .inl (by subst feed; exact short 'f' rfl (by decide))
  by_cases newline : c = '\n'
  · exact .inl (by subst newline; exact short 'n' rfl (by decide))
  by_cases carriage : c = '\r'
  · exact .inl (by subst carriage; exact short 'r' rfl (by decide))
  by_cases tab : c = '\t'
  · exact .inl (by subst tab; exact short 't' rfl (by decide))
  rw [if_neg quote, if_neg backslash, if_neg backspace, if_neg feed, if_neg newline,
    if_neg carriage, if_neg tab]
  by_cases control : c.toNat < 0x20
  · exact .inr (.inl ⟨if_pos control, control⟩)
  · exact .inr (.inr ⟨if_neg control, quote, backslash, control⟩)

/-- A printed character is scanned as a piece that stands for it. -/
lemma run_printChar (c : Char) (stack : List Frame) (asKey : Bool) (pieces : List Piece) :
    ∃ p, Means p c ∧ run (.inString stack asKey pieces .none) (printChar c)
      = .inString stack asKey (p :: pieces) .none := by
  obtain ⟨letter, printed, isEscape, notUnit⟩ | ⟨printed, control⟩ | ⟨printed, plain⟩ :=
    printChar_cases c
  · refine ⟨.char c, means_char c, ?_⟩
    rw [printed]
    change stepString stack asKey pieces .begun letter = _
    rw [stepString, if_neg notUnit, isEscape]
  · refine ⟨.unit c.toNat, means_unit (by omega), ?_⟩
    have value : 16 * (16 * 0 + c.toNat / 16 % 16) + c.toNat % 16 = c.toNat := by omega
    rw [printed]
    change step (stepString stack asKey pieces (.digits 2 0) (hexDigit (c.toNat / 16)))
      (some (hexDigit c.toNat)) = _
    simp only [stepString, hexValue?_hexDigit, step, Nat.reduceLeDiff, Nat.reduceSub, if_false,
      Nat.le_refl, if_true, value]
  · refine ⟨.char c, means_char c, ?_⟩
    obtain ⟨notQuote, notBackslash, notControl⟩ := plain
    rw [printed]
    change stepString stack asKey pieces .none c = _
    rw [stepString, if_neg notQuote, if_neg notBackslash, if_neg notControl]

/-- A printed text is scanned as pieces that stand for it. -/
lemma run_printChars (cs : List Char) (stack : List Frame) (asKey : Bool) (pieces : List Piece) :
    ∃ ps, textOf? ps = some cs ∧ run (.inString stack asKey pieces .none) (cs.flatMap printChar)
      = .inString stack asKey (ps.reverse ++ pieces) .none := by
  induction cs generalizing pieces with
  | nil => exact ⟨[], rfl, rfl⟩
  | cons c cs ih =>
    obtain ⟨p, means, first⟩ := run_printChar c stack asKey pieces
    obtain ⟨ps, isText, rest⟩ := ih (p :: pieces)
    refine ⟨p :: ps, by rw [means ps, isText]; rfl, ?_⟩
    rw [List.flatMap_cons, run_append, first, rest, List.reverse_cons, List.append_assoc]
    rfl

/-- A printed string is scanned as its text. -/
lemma run_printString (s : String) (stack : List Frame) (asKey : Bool) :
    ∃ ps, (textOf? ps.reverse).map String.ofList = some s ∧
      run (.inString stack asKey [] .none) (s.toList.flatMap printChar ++ ['"'])
        = endString stack asKey ps := by
  obtain ⟨ps, isText, scanned⟩ := run_printChars s.toList stack asKey []
  refine ⟨ps.reverse, ?_, ?_⟩
  · rw [List.reverse_reverse, isText, Option.map_some, String.ofList_toList]
  · rw [run_append, scanned, List.append_nil]
    rfl

lemma spells_string (s : String) : Spells (printString s) (.string (some s)) := by
  refine ⟨'"', s.toList.flatMap printChar ++ ['"'], rfl, rfl, by decide, fun stack => ?_⟩
  obtain ⟨ps, isText, scanned⟩ := run_printString s stack false
  change Ends stack _ (run (.inString stack false [] .none) _)
  rw [scanned, endString, isText]
  exact .emitted

/-- A printed key is scanned up to the colon behind it, if a key may stand there. -/
lemma run_key {members : List (Key × Tree)} {below : List Frame} {place : Place} (key : String)
    (mayStand : place = .firstKey ∨ place = .key) :
    run (.between (.members members :: below) place) (printString key)
      = .between (.members members :: below) (.colon (.text key)) := by
  obtain ⟨ps, isText, scanned⟩ := run_printString key (.members members :: below) true
  have begins : step (.between (.members members :: below) place) (some '"')
      = .inString (.members members :: below) true [] .none := by
    rcases mayStand with rfl | rfl <;> rfl
  rw [printString, run_cons, begins, scanned, endString, isText]
  rfl

/-! ### Arrays and objects -/

lemma separated_cons (cs : List Char) (css : List (List Char)) :
    separated (cs :: css) = cs ++ css.flatMap fun cs => ',' :: cs := by
  induction css generalizing cs with
  | nil => rw [separated, List.flatMap_nil, List.append_nil]
  | cons cs' css ih =>
    change cs ++ ',' :: separated (cs' :: css) = _
    rw [ih, List.flatMap_cons, List.cons_append]

variable {below : List Frame} {css : List (List Char)}

/-- Behind an element of an array the others are scanned up to its end. -/
lemma run_items {done ts : List Tree} (ends : Ends (.array done :: below) t state)
    (others : List.Forall₂ Spells css ts) :
    run state ((css.flatMap fun cs => ',' :: cs) ++ [']'])
      = emit below (.array (done.reverse ++ t :: ts) .closed) := by
  induction others generalizing done t state with
  | nil =>
    change step state (some ']') = _
    rw [ends.step rfl]
    change emit below (.array (t :: done).reverse .closed) = _
    rw [List.reverse_cons]
  | @cons cs t' css ts spells _ ih =>
    have comma : step state (some ',') = .between (.array (t :: done) :: below) .value :=
      ends.step rfl
    rw [List.flatMap_cons, List.cons_append, List.cons_append, run_cons, comma, List.append_assoc,
      run_append, ih (spells.ends _), List.reverse_cons, List.append_assoc, List.singleton_append]

lemma spells_array {ts : List Tree} (each : List.Forall₂ Spells css ts) :
    Spells ('[' :: (separated css ++ [']'])) (.array ts .closed) := by
  refine ⟨'[', _, rfl, rfl, by decide, fun stack => ?_⟩
  change Ends stack _ (run (.between (.array [] :: stack) .firstItem) _)
  cases each with
  | nil => exact .emitted
  | cons first others =>
    rw [separated_cons, List.append_assoc, run_append, run_items (first.ends_first stack) others]
    exact .emitted

/-- Whether a text is a printed key with the text of a tree behind it. -/
def SpellsMember (cs : List Char) (m : String × Tree) : Prop :=
  ∃ rest, cs = printString m.1 ++ ':' :: rest ∧ Spells rest m.2

/-- A member is scanned where a key may stand. -/
lemma SpellsMember.ends {m : String × Tree} (spells : SpellsMember cs m)
    (members : List (Key × Tree)) (below : List Frame) {place : Place}
    (mayStand : place = .firstKey ∨ place = .key) :
    Ends (.member members (.text m.1) :: below) m.2
      (run (.between (.members members :: below) place) cs) := by
  obtain ⟨rest, rfl, spells⟩ := spells
  rw [run_append, run_key m.1 mayStand]
  exact spells.ends _

/-- Behind a member of an object the others are scanned up to its end. -/
lemma run_members {done : List (Key × Tree)} {key : Key} {members : Members Tree}
    (ends : Ends (.member done key :: below) t state)
    (others : List.Forall₂ SpellsMember css members) :
    run state ((css.flatMap fun cs => ',' :: cs) ++ ['\x7d'])
      = emit below (.object (done.reverse ++ (key, t) :: Tree.named members) .closed) := by
  induction others generalizing done key t state with
  | nil =>
    change step state (some '\x7d') = _
    rw [ends.step rfl]
    change emit below (.object ((key, t) :: done).reverse .closed) = _
    rw [List.reverse_cons]
    rfl
  | @cons cs m css members spells _ ih =>
    have comma : step state (some ',') = .between (.members ((key, t) :: done) :: below) .key :=
      ends.step rfl
    rw [List.flatMap_cons, List.cons_append, List.cons_append, run_cons, comma, List.append_assoc,
      run_append, ih (spells.ends _ _ (.inr rfl)), List.reverse_cons, List.append_assoc,
      List.singleton_append]
    rfl

lemma spells_object {members : Members Tree} (each : List.Forall₂ SpellsMember css members) :
    Spells ('\x7b' :: (separated css ++ ['\x7d'])) (.object (Tree.named members) .closed) := by
  refine ⟨'\x7b', _, rfl, rfl, by decide, fun stack => ?_⟩
  change Ends stack _ (run (.between (.members [] :: stack) .firstKey) _)
  cases each with
  | nil => exact .emitted
  | cons first others =>
    rw [separated_cons, List.append_assoc, run_append,
      run_members (first.ends [] stack (.inl rfl)) others]
    exact .emitted

end Scanner

/-! ### Trees -/

namespace Tree

open Scanner

mutual

/-- A plain tree is scanned wherever a value may stand. -/
theorem spells_print : (t : Tree) → t.plain = true → Spells t.print t
  | .null, _ => spells_null
  | .bool b, _ => spells_bool b
  | .number (some _), plain => spells_number plain
  | .string (some s), _ => spells_string s
  | .array items ending, plain => by
    obtain ⟨closed, each⟩ := (Bool.and_eq_true _ _).mp plain
    obtain rfl := of_decide_eq_true closed
    exact spells_array (spells_printAll items each)
  | .object ms ending, plain => by
    obtain ⟨closed, each⟩ := (Bool.and_eq_true _ _).mp plain
    obtain rfl := of_decide_eq_true closed
    obtain ⟨members, rfl, each⟩ := spells_printMembers ms each
    exact spells_object each

theorem spells_printAll : (ts : List Tree) → allPlain ts = true →
    List.Forall₂ Spells (printAll ts) ts
  | [], _ => .nil
  | t :: rest, plain =>
    have ⟨first, others⟩ := (Bool.and_eq_true _ _).mp plain
    .cons (spells_print t first) (spells_printAll rest others)

theorem spells_printMembers : (ms : List (Key × Tree)) → membersPlain ms = true →
    ∃ members, ms = named members ∧ List.Forall₂ SpellsMember (printMembers ms) members
  | [], _ => ⟨[], rfl, .nil⟩
  | (.text key, t) :: rest, plain => by
    obtain ⟨first, others⟩ := (Bool.and_eq_true _ _).mp plain
    obtain ⟨members, rfl, each⟩ := spells_printMembers rest others
    exact ⟨(key, t) :: members, rfl, .cons ⟨_, rfl, spells_print t first⟩ each⟩

end

/-- In a printed tree that is plain the scanner finds the tree and nothing behind it. -/
theorem scan_print {t : Tree} (plain : t.plain = true) :
    Document.scan (t.print.map some) = ⟨t, true⟩ := by
  rw [Document.scan, List.foldl_map]
  exact ((spells_print t plain).ends []).finish

end Tree

end MetricWatch.Json
