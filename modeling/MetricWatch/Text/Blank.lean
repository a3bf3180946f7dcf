/-!
# Blank text

A character is blank when it has the Unicode property White_Space. A text is blank when all its
characters are, and `trim` drops the blank ones at both ends.
-/

namespace MetricWatch.Text

/-- The Unicode property White_Space. -/
def isBlankChar (c : Char) : Bool :=
  let n := c.toNat
  (9 ≤ n && n ≤ 13) || n == 0x20 || n == 0x85 || n == 0xa0 || n == 0x1680
    || (0x2000 ≤ n && n ≤ 0x200a) || n == 0x2028 || n == 0x2029 || n == 0x202f
    || n == 0x205f || n == 0x3000

/-- Whether a text has blank characters only; the empty text is blank. -/
def isBlank (s : String) : Bool := s.toList.all isBlankChar

/-- A list without the blank characters at its two ends. -/
def trimList (cs : List Char) : List Char :=
  ((cs.dropWhile isBlankChar).reverse.dropWhile isBlankChar).reverse

/-- A text without the blank characters at its two ends. -/
def trim (s : String) : String := String.ofList (trimList s.toList)

/-- A text unless it is blank. -/
def nonBlank? (s : String) : Option String := if isBlank s then none else some s

/-! ### Laws -/

@[simp] theorem isBlank_empty : isBlank "" = true := by simp [isBlank]

@[simp] theorem nonBlank?_eq_some_iff {s t : String} :
    nonBlank? s = some t ↔ isBlank s = false ∧ s = t := by
  unfold nonBlank?
  by_cases h : isBlank s = true <;> simp [h]

end MetricWatch.Text
