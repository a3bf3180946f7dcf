import MetricWatch.Proofs.Text.ByteOrder

/-!
# The bytes of a text read back

The first byte of a character leaves the reader with as many bytes owed as follow it and with the
bits that those bytes extend, so that the last of them ends the character. The main statement is
`Utf8.decode?_encode`.
-/

namespace MetricWatch.Text.Utf8

/-! ### Characters -/

/-- The bytes that follow a first byte end the character, if the first of them is one that the
first byte allows. Every further one may be any. -/
lemma decodeFrom_followers (n v low high : Nat) (x : List UInt8)
    (allowed : low ≤ v / 64 ^ n % 64 + 0x80 ∧ v / 64 ^ n % 64 + 0x80 ≤ high) :
    decodeFrom (some ⟨n + 1, low, high, v / 64 ^ (n + 1)⟩) (followers (n + 1) v x)
      = some (Char.ofNat v) :: decodeFrom none x := by
  induction n generalizing low high with
  | zero =>
    have small : v % 64 + 0x80 < 2 ^ 8 := by omega
    have whole : v / 64 * 64 + v % 64 = v := by omega
    simp only [Nat.pow_zero, Nat.div_one] at allowed
    simp only [followers, decodeFrom, step, Nat.zero_add, Nat.pow_zero, Nat.pow_one, Nat.div_one,
      UInt8.toNat_ofNat', Nat.mod_eq_of_lt small, Nat.add_sub_cancel, whole]
    simp [allowed]
  | succ n ih =>
    have small : v / 64 ^ (n + 1) % 64 + 0x80 < 2 ^ 8 := by omega
    have more : v / 64 ^ (n + 1 + 1) * 64 + v / 64 ^ (n + 1) % 64 = v / 64 ^ (n + 1) := by
      rw [Nat.pow_succ _ (n + 1), ← Nat.div_div_eq_div_mul]
      omega
    have next := ih 0x80 0xbf (by omega)
    rw [followers, decodeFrom]
    simp only [step, UInt8.toNat_ofNat', Nat.mod_eq_of_lt small, Nat.add_sub_cancel, more]
    simpa [allowed] using next

/-- That a first byte begins a character of further bytes, the first of which is in its bounds. -/
def Begins (b n v : Nat) : Prop :=
  ∃ low high, start b = .longer ⟨n + 1, low, high, v / 64 ^ (n + 1)⟩ ∧
    low ≤ v / 64 ^ n % 64 + 0x80 ∧ v / 64 ^ n % 64 + 0x80 ≤ high

variable {v : Nat}

lemma begins_two (long : 0x7f < v) (short : v ≤ 0x7ff) : Begins (v / 64 + 0xc0) 0 v := by
  refine ⟨0x80, 0xbf, ?_, by omega, by omega⟩
  rw [start, if_neg (by omega), if_pos (by simp; omega)]
  simp

/-- No surrogate is a character, and none is written longer than it needs to be. -/
lemma begins_three (long : 0x7ff < v) (short : v ≤ 0xffff) (valid : v < 0xd800 ∨ 0xdfff < v) :
    Begins (v / 4096 + 0xe0) 1 v := by
  have noStart : ¬v / 4096 + 0xe0 < 0x80 := by omega
  rw [Begins, start, if_neg noStart, if_neg (by simp)]
  by_cases lowest : v / 4096 = 0
  · exact ⟨0xa0, 0xbf, by simp [lowest], by omega, by omega⟩
  by_cases surrogate : v / 4096 = 13
  · exact ⟨0x80, 0x9f, by simp [surrogate], by omega, by omega⟩
  · refine ⟨0x80, 0xbf, ?_, by omega, by omega⟩
    rw [if_neg (by simp; omega), if_neg (by simp; omega), if_pos (by simp; omega)]
    simp

/-- No number past the last character is written, and none is written longer than it needs to
be. -/
lemma begins_four (long : 0xffff < v) (short : v < 0x110000) :
    Begins (v / 262144 + 0xf0) 2 v := by
  have noStart : ¬v / 262144 + 0xf0 < 0x80 := by omega
  rw [Begins, start, if_neg noStart, if_neg (by simp), if_neg (by simp), if_neg (by simp),
    if_neg (by simp)]
  by_cases lowest : v / 262144 = 0
  · exact ⟨0x90, 0xbf, by simp [lowest], by omega, by omega⟩
  by_cases highest : v / 262144 = 4
  · exact ⟨0x80, 0x8f, by simp [highest], by omega, by omega⟩
  · refine ⟨0x80, 0xbf, ?_, by omega, by omega⟩
    rw [if_neg (by simp; omega), if_neg (by simp; omega), if_pos (by simp; omega)]
    simp

/-- The first byte of a character that is not ASCII begins the bytes that follow it. -/
lemma begins_firstByte (long : 0x7f < v) (valid : v < 0xd800 ∨ 0xdfff < v ∧ v < 0x110000) :
    ∃ n, followerCount v = n + 1 ∧ Begins (firstByte v) n v := by
  have notOne : ¬v ≤ 0x7f := by omega
  by_cases two : v ≤ 0x7ff
  · refine ⟨0, by simp [followerCount, notOne, two], ?_⟩
    simpa [firstByte, followerCount, notOne, two] using begins_two long two
  by_cases three : v ≤ 0xffff
  · refine ⟨1, by simp [followerCount, notOne, two, three], ?_⟩
    simpa [firstByte, followerCount, notOne, two, three]
      using begins_three (by omega) three (by omega)
  · refine ⟨2, by simp [followerCount, notOne, two, three], ?_⟩
    simpa [firstByte, followerCount, notOne, two, three]
      using begins_four (v := v) (by omega) (by omega)

lemma decodeFrom_encodeChar (c : Char) (x : List UInt8) :
    decodeFrom none (String.utf8EncodeChar c ++ x) = some c :: decodeFrom none x := by
  have small : firstByte c.toNat < 2 ^ 8 := firstByte_small (toNat_lt c)
  rw [encodeChar_append, decodeFrom]
  simp only [step, begin?, UInt8.toNat_ofNat', Nat.mod_eq_of_lt small]
  by_cases ascii : c.toNat ≤ 0x7f
  case pos =>
    have count : followerCount c.toNat = 0 := by simp [followerCount, ascii]
    have first : firstByte c.toNat = c.toNat := by simp [firstByte, followerCount, ascii]
    rw [first, start, if_pos (by omega), count, Char.ofNat_toNat]
    rfl
  case neg =>
    obtain ⟨n, count, low, high, begun, allowed⟩ := begins_firstByte (v := c.toNat) (by omega) c.valid
    simp only [begun, count, List.nil_append]
    rw [decodeFrom_followers n _ low high x allowed, Char.ofNat_toNat]

/-! ### Texts -/

lemma decode_encode (s : String) : decode (encode s) = s.toList.map some := by
  rw [encode_eq, decode]
  induction s.toList with
  | nil => rfl
  | cons c rest ih => rw [List.flatMap_cons, decodeFrom_encodeChar, ih, List.map_cons]

/-- A text is read back from its bytes. -/
theorem decode?_encode (s : String) : decode? (encode s) = some s := by
  have all : (s.toList.map some).mapM id = some s.toList := by
    rw [List.mapM_map]
    exact List.mapM_pure.trans (congrArg some s.toList.map_id)
  rw [decode?, decode_encode, all, Option.map_some, String.ofList_toList]

end MetricWatch.Text.Utf8
