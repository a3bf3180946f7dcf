import MetricWatch.Text.Percent
import Mathlib.Tactic.Lemma
import Mathlib.Data.List.Basic

/-!
# Percent-encoded text says what it encodes

Decoding gives back the bytes that were encoded, so different texts have different encoded forms.
The characters of an encoded text are letters, digits and a few marks, none of which separates
anything in a URL. The main statement is `Percent.encode_injective`.
-/

namespace MetricWatch.Text

/-! ### Bytes of a text -/

namespace Utf8

lemma toList_loop (bytes : ByteArray) (i : Nat) (read : List UInt8) :
    ByteArray.toList.loop bytes i read = read.reverse ++ bytes.data.toList.drop i := by
  induction i, read using ByteArray.toList.loop.induct bytes with
  | case1 i read inside ih =>
    have inside' : i < bytes.data.toList.length := inside
    have head : bytes.get! i = bytes.data.toList[i] := by
      simp [ByteArray.get!, getElem!_pos bytes.data i inside]
    rw [ByteArray.toList.loop, if_pos inside, ih, List.drop_eq_getElem_cons inside', head]
    simp
  | case2 i read past =>
    have past' : bytes.data.toList.length ≤ i := Nat.le_of_not_lt past
    rw [ByteArray.toList.loop, if_neg past, List.drop_of_length_le past', List.append_nil]

lemma encode_eq (s : String) : encode s = s.toList.flatMap String.utf8EncodeChar := by
  have bytes : s.toUTF8 = (s.toList.flatMap String.utf8EncodeChar).toByteArray := by
    conv_lhs => rw [← String.ofList_toList (s := s)]
    exact String.toByteArray_ofList
  rw [encode, bytes, ByteArray.toList, toList_loop, List.data_toByteArray]
  rfl

lemma encode_injective {s t : String} (same : encode s = encode t) : s = t := by
  rw [encode_eq, encode_eq] at same
  have bytes : s.toList.utf8Encode = t.toList.utf8Encode := congrArg List.toByteArray same
  rw [← String.toByteArray_inj, ← String.ofList_toList (s := s), ← String.ofList_toList (s := t)]
  exact (String.toByteArray_ofList.trans bytes).trans String.toByteArray_ofList.symm

end Utf8

namespace Percent

/-! ### Decoding -/

lemma hexValue?_hexDigit {n : Nat} (digit : n < 16) : hexValue? (hexDigit n) = some n := by
  have all : ∀ n < 16, hexValue? (hexDigit n) = some n := by decide
  exact all n digit

/-- An unreserved byte is the character that it stands for, which is not the mark of an encoded
byte. -/
lemma encode_unreserved {b : UInt8} (unreserved : isUnreserved b = true) :
    Char.ofNat b.toNat ≠ '%' ∧ Utf8.encode (String.singleton (Char.ofNat b.toNat)) = [b] := by
  have ascii : b.toNat ≤ 127 := by
    simp only [isUnreserved] at unreserved
    simp at unreserved
    omega
  have codes : ∀ n < 128, (Char.ofNat n).toNat = n := by decide
  have code : (Char.ofNat b.toNat).toNat = b.toNat := codes _ (Nat.lt_succ_of_le ascii)
  refine ⟨fun isMark => ?_, ?_⟩
  · have mark : b.toNat = 37 := by
      rw [← code, isMark]
      rfl
    simp [isUnreserved, mark] at unreserved
  · have val : (Char.ofNat b.toNat).val.toNat = b.toNat := code
    rw [Utf8.encode_eq]
    simp [String.utf8EncodeChar, val, ascii]

lemma decodeBytes_cons {c : Char} (noMark : c ≠ '%') (rest : List Char) :
    decodeBytes (c :: rest) = Utf8.encode (String.singleton c) ++ decodeBytes rest := by
  rw [decodeBytes.eq_def]
  split
  · exact absurd (List.cons.inj ‹_›).1 noMark
  · obtain ⟨rfl, rfl⟩ := List.cons.inj ‹_›
    rfl
  · cases ‹_›

lemma decodeBytes_encodeByte (b : UInt8) (rest : List Char) :
    decodeBytes (encodeByte b ++ rest) = b :: decodeBytes rest := by
  by_cases unreserved : isUnreserved b = true
  · obtain ⟨noMark, bytes⟩ := encode_unreserved unreserved
    rw [encodeByte, if_pos unreserved, List.singleton_append, decodeBytes_cons noMark, bytes]
    rfl
  · have high : b.toNat / 16 < 16 := Nat.div_lt_of_lt_mul b.toNat_lt
    have low : b.toNat % 16 < 16 := Nat.mod_lt _ (by decide)
    have whole : UInt8.ofNat (16 * (b.toNat / 16) + b.toNat % 16) = b := by
      rw [Nat.div_add_mod]
      exact UInt8.ofNat_toNat
    simp only [encodeByte, if_neg unreserved, List.cons_append, List.nil_append, decodeBytes,
      hexValue?_hexDigit high, hexValue?_hexDigit low, whole]

/-- Decoding undoes encoding. -/
theorem decodeBytes_encodeBytes (bytes : List UInt8) :
    decodeBytes (encodeBytes bytes) = bytes := by
  induction bytes with
  | nil => rfl
  | cons b rest ih =>
    rw [encodeBytes, List.flatMap_cons, decodeBytes_encodeByte]
    exact congrArg _ ih

lemma decodeBytes_encode (s : String) : decodeBytes (encode s).toList = Utf8.encode s := by
  rw [encode, String.toList_ofList, decodeBytes_encodeBytes]

/-- Different texts are encoded differently. -/
theorem encode_injective {s t : String} (same : encode s = encode t) : s = t := by
  apply Utf8.encode_injective
  rw [← decodeBytes_encode, ← decodeBytes_encode, same]

/-! ### Characters -/

/-- Whether a character can stand in encoded text. -/
def isPlain (c : Char) : Bool := c.isAlphanum || ['%', '-', '.', '_', '~'].contains c

lemma isPlain_of_mem_encodeByte {b : UInt8} {c : Char} (mem : c ∈ encodeByte b) :
    isPlain c = true := by
  have all : ∀ n < 256, (encodeByte (UInt8.ofNat n)).all isPlain = true := by decide +kernel
  have byte := all b.toNat b.toNat_lt
  rw [UInt8.ofNat_toNat] at byte
  exact List.all_eq_true.mp byte c mem

lemma isPlain_of_mem_encode {s : String} {c : Char} (mem : c ∈ (encode s).toList) :
    isPlain c = true := by
  rw [encode, String.toList_ofList, encodeBytes, List.mem_flatMap] at mem
  obtain ⟨b, -, inByte⟩ := mem
  exact isPlain_of_mem_encodeByte inByte

/-- Plain characters are visible ones of ASCII. -/
lemma toNat_of_isPlain {c : Char} (plain : isPlain c = true) : 0x20 < c.toNat ∧ c.toNat < 0x7f := by
  change (decide ('A'.val ≤ c.val ∧ c.val ≤ 'Z'.val) || ('a'.val ≤ c.val && c.val ≤ 'z'.val) ||
    ('0'.val ≤ c.val && c.val ≤ '9'.val) || ['%', '-', '.', '_', '~'].contains c) = true at plain
  simp only [Bool.or_eq_true, Bool.and_eq_true, decide_eq_true_eq, UInt32.le_iff_toNat_le,
    List.contains_iff_mem] at plain
  change ((65 ≤ c.toNat ∧ c.toNat ≤ 90 ∨ 97 ≤ c.toNat ∧ c.toNat ≤ 122) ∨
    48 ≤ c.toNat ∧ c.toNat ≤ 57) ∨ c ∈ ['%', '-', '.', '_', '~'] at plain
  rcases plain with ((upper | lower) | digit) | mark
  · omega
  · omega
  · omega
  · simp only [List.mem_cons, List.not_mem_nil, or_false] at mark
    rcases mark with rfl | rfl | rfl | rfl | rfl <;> decide

/-- No mark of a URL's components is plain. -/
lemma ne_of_isPlain {c : Char} (plain : isPlain c = true) :
    ∀ d ∈ "\"#/:<>?\\^\x60\x7b\x7d".toList, c ≠ d := by
  have marks : ("\"#/:<>?\\^\x60\x7b\x7d".toList.any isPlain) = false := by decide
  rintro d mark rfl
  exact List.any_eq_false.mp marks c mark plain

end Percent

end MetricWatch.Text
