import MetricWatch.Text.Percent

/-!
# Characters of URLs

Which characters are percent-encoded in which component of a URL. All of these sets hold the
control characters and everything beyond ASCII.
-/

namespace MetricWatch.Url

/-- Control characters and characters beyond ASCII. -/
def isControl (c : Char) : Bool := c.toNat < 0x20 || 0x7e < c.toNat

/-- What is encoded in a fragment. -/
def inFragmentSet (c : Char) : Bool := isControl c || " \"<>\x60".toList.contains c

/-- What is encoded in a query. -/
def inQuerySet (c : Char) : Bool := isControl c || " \"#<>".toList.contains c

/-- What is encoded in the query of a special URL. -/
def inSpecialQuerySet (c : Char) : Bool := inQuerySet c || c == '\''

/-- What is encoded in a path. -/
def inPathSet (c : Char) : Bool := inQuerySet c || "?^\x60\x7b\x7d".toList.contains c

/-- What is encoded in a user name or a password. -/
def inUserinfoSet (c : Char) : Bool := inPathSet c || "/:;=@[\\]|".toList.contains c

/-- A byte as `%` and two digits. -/
def encodeByte (b : UInt8) : List Char :=
  ['%', Text.Percent.hexDigit (b.toNat / 16), Text.Percent.hexDigit (b.toNat % 16)]

/-- Text with the characters of a set encoded. -/
def encodeSet (inSet : Char → Bool) (cs : List Char) : List Char :=
  cs.flatMap fun c =>
    if inSet c then (Text.Utf8.encode (String.singleton c)).flatMap encodeByte else [c]

/-- Text in which no character is of a set is left as it is. -/
theorem encodeSet_eq_self {inSet : Char → Bool} {cs : List Char}
    (h : ∀ c ∈ cs, inSet c = false) : encodeSet inSet cs = cs := by
  induction cs with
  | nil => rfl
  | cons c rest ih =>
    have hc := h c (by simp)
    have hr := ih fun d hd => h d (by simp [hd])
    simp only [encodeSet, List.flatMap_cons, hc] at hr ⊢
    simpa using hr

end MetricWatch.Url
