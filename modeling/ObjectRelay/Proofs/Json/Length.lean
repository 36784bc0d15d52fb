import ObjectRelay.Proofs.Json.Weight
/-!
# A text is longer than what it holds

Three scales: on the first every character counts (`Scale.characters`), on the second every byte, and a byte of a string
twice if it has to be escaped (`Scale.sizes`), on the third only such bytes (`Scale.marks`).  So a text has more
characters, more bytes, and more quotes and backslashes than the strings together that stand in it.
-/
namespace ObjectRelay

/-! ## Bytes of characters -/

namespace Utf8

/-- Whether a character may begin with the byte. -/
def isLead (b : UInt8) : Bool := b < 0x80 || 0xBF < b

theorem isLead_toUInt8 {n : Nat} (h : n < 256) : isLead n.toUInt8 = decide (n < 0x80 ∨ 0xBF < n) := by
  simp only [isLead, UInt8.lt_iff_toNat_lt, toNat_toUInt8 h, UInt8.reduceToNat, Bool.decide_or]

theorem isLead_first {base n : Nat} (hbase : 0xC0 ≤ base) (h : base + n < 256) : isLead (base + n).toUInt8 = true := by
  rw [isLead_toUInt8 h, decide_eq_true_eq]
  omega

theorem isLead_last (n : Nat) : isLead (0x80 + n % 64).toUInt8 = false := by
  rw [isLead_toUInt8 (by omega), decide_eq_false_iff_not]
  omega

/-- **Each character begins once.** -/
theorem countP_isLead_encodeChar (c : Char) : (encodeChar c).countP isLead = 1 := by
  by_cases hascii : c.toNat < 0x80
  · rw [encodeChar_ascii hascii, List.countP_singleton, isLead_toUInt8 (by omega), decide_eq_true (.inl hascii),
      if_pos rfl]
  · obtain ⟨base, k, hlong⟩ := exists_isLong (Nat.not_lt.1 hascii)
    obtain ⟨hbase, hfirst⟩ := hlong.first
    have hlast : (lastBytes k c.toNat).countP isLead = 0 := by
      refine List.countP_eq_zero.2 fun b hb => ?_
      obtain ⟨m, rfl⟩ := exists_of_mem_lastBytes hb
      rw [isLead_last]
      exact Bool.false_ne_true
    rw [encodeChar_of_isLong hlong, List.countP_cons, hlast, isLead_first hbase hfirst, if_pos rfl]

theorem countP_isLead_encode (s : String) : (encode s).countP isLead = s.length := by
  have hone : List.countP isLead ∘ encodeChar = fun _ => 1 := funext countP_isLead_encodeChar
  rw [encode, encodeChars, List.countP_flatMap, hone, List.map_const', List.sum_replicate_nat, Nat.mul_one,
    String.length_toList]

theorem length_encodeChar (c : Char) : (encodeChar c).length = c.utf8Size := by
  have hsize : c.utf8Size =
      if c.toNat < 0x80 then 1 else if c.toNat < 0x800 then 2 else if c.toNat < 0x10000 then 3 else 4 := by
    simp only [Char.utf8Size, UInt32.le_iff_toNat_le, ← Nat.lt_succ_iff]
    rfl
  rw [hsize, encodeChar]
  dsimp only
  repeat' split
  all_goals rfl

theorem length_encode (s : String) : (encode s).length = s.utf8ByteSize := by
  have hlength : (fun c => (encodeChar c).length) = fun c => (String.utf8EncodeChar c).length := by
    funext c
    rw [length_encodeChar, String.length_utf8EncodeChar]
  rw [encode, encodeChars, List.length_flatMap, hlength, ← List.length_flatMap, ← List.size_toByteArray,
    ← String.size_toByteArray, ← String.utf8Encode_toList, List.utf8Encode]

end Utf8

namespace Json

open Utf8 (isLead encode encodeChar)

/-! ## Scales that count -/

/-- Whether a byte of a string has to be escaped, wherever it stands: the quote and the backslash. -/
def isMark (b : UInt8) : Bool := b == 0x22 || b == 0x5C

/-- A character has four bytes at most, however it is written, and only one if it has to be escaped. -/
theorem countP_isMark_encodeChar (c : Char) :
    (encodeChar c).countP isMark ≤ 1 ∧ (encodeChar c).length + (encodeChar c).countP isMark ≤ 4 := by
  by_cases hascii : c.toNat < 0x80
  · have hle : [c.toNat.toUInt8].countP isMark ≤ 1 := List.countP_le_length
    rw [Utf8.encodeChar_ascii hascii]
    exact ⟨hle, Nat.le_trans (Nat.add_le_add_left hle 1) (by decide)⟩
  · have hnone : (encodeChar c).countP isMark = 0 := by
      refine List.countP_eq_zero.2 fun b hb hmark => ?_
      have hle := Utf8.le_toNat_of_mem_encodeChar (Nat.not_lt.1 hascii) hb
      rcases Bool.or_eq_true_iff.1 hmark with hb | hb
      all_goals
        rw [eq_of_beq hb] at hle
        exact absurd hle (by decide)
    rw [hnone, Utf8.length_encodeChar]
    exact ⟨Nat.zero_le 1, c.utf8Size_le_four⟩

namespace Scale

theorem sum_map_ite_eq_countP (p : UInt8 → Bool) (bytes : List UInt8) :
    (bytes.map fun b => if p b then 1 else 0).sum = bytes.countP p := by
  induction bytes with
  | nil => rfl
  | cons b rest ih => rw [List.map_cons, List.sum_cons, ih, List.countP_cons, Nat.add_comm]

/-- **The scale that counts bytes of one kind**, of which no character has more than one.  A backslash is of that kind,
so an escape has one too. -/
def counting (p : UInt8 → Bool) (hbackslash : p 0x5C = true) (hchar : ∀ c, (encodeChar c).countP p ≤ 1) : Scale where
  text b := if p b then 1 else 0
  read b := if p b then 1 else 0
  most := 1
  plain _ _ _ := Nat.le_refl _
  short := by
    intro b c _
    rw [if_pos hbackslash]
    split <;> omega
  char c := by
    rw [sum_map_ite_eq_countP]
    exact hchar c
  digits ds _ := by
    rw [if_pos hbackslash, Nat.add_assoc]
    exact Nat.le_add_right 1 _

section Counting

variable {p : UInt8 → Bool} (hbackslash : p 0x5C = true) (hchar : ∀ c, (encodeChar c).countP p ≤ 1)

theorem weight_counting (bytes : List UInt8) : (counting p hbackslash hchar).weight bytes = bytes.countP p :=
  sum_map_ite_eq_countP p bytes

theorem quoted_counting (s : String) : (counting p hbackslash hchar).quoted s =
    (encode s).countP p + 2 * if p 0x22 then 1 else 0 := by
  have hcontent : (counting p hbackslash hchar).content (encode s) = (encode s).countP p := sum_map_ite_eq_countP p _
  rw [quoted, hcontent, counting]
  dsimp only
  omega

end Counting

/-- The scale on which every character counts. -/
def characters : Scale := counting isLead (by decide) fun c => Nat.le_of_eq (Utf8.countP_isLead_encodeChar c)

theorem weight_characters (s : String) : characters.weight (encode s) = s.length :=
  (weight_counting ..).trans (Utf8.countP_isLead_encode s)

theorem quoted_characters (s : String) : characters.quoted s = s.length + 2 := by
  rw [← Utf8.countP_isLead_encode]
  exact quoted_counting ..

/-- The scale on which quotes and backslashes count. -/
def marks : Scale := counting isMark (by decide) fun c => (countP_isMark_encodeChar c).1

/-- How many quotes and backslashes a text has. -/
def markCount (s : String) : Nat := (encode s).countP isMark

theorem weight_marks (s : String) : marks.weight (encode s) = markCount s := weight_counting ..

theorem quoted_marks (s : String) : marks.quoted s = markCount s + 2 := quoted_counting ..

/-! ## The scale of bytes -/

theorem sum_map_ite_eq_length_add (bytes : List UInt8) :
    (bytes.map fun b => if isMark b then 2 else 1).sum = bytes.length + bytes.countP isMark := by
  induction bytes with
  | nil => rfl
  | cons b rest ih =>
    rw [List.map_cons, List.sum_cons, ih, List.countP_cons, List.length_cons]
    split <;> omega

/-- **The scale on which every byte counts**, and twice if it is written as an escape. -/
def sizes : Scale where
  text _ := 1
  read b := if isMark b then 2 else 1
  most := 4
  plain b hquote hbackslash := by simp [isMark, hquote, hbackslash]
  short := by
    intro b c _
    split <;> omega
  char c := by
    rw [sum_map_ite_eq_length_add]
    exact (countP_isMark_encodeChar c).2
  digits ds hds := by
    rw [List.map_const', List.sum_replicate_nat, Nat.mul_one]
    omega

theorem weight_sizes (s : String) : sizes.weight (encode s) = s.utf8ByteSize := by
  rw [weight, sizes, List.map_const', List.sum_replicate_nat, Nat.mul_one, Utf8.length_encode]

theorem quoted_sizes (s : String) : sizes.quoted s = s.utf8ByteSize + markCount s + 2 := by
  have hcontent : sizes.content (encode s) = s.utf8ByteSize + markCount s := by
    rw [content, sizes, sum_map_ite_eq_length_add, Utf8.length_encode, markCount]
  rw [quoted, hcontent, sizes]
  dsimp only
  omega

end Scale
end Json
end ObjectRelay
