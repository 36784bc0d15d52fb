import ObjectRelay.Text.Utf8
import Mathlib.Algebra.Group.Nat.Defs
/-!
# Text and its bytes

Every text is read back from its bytes (`decode?_encode`): the bounds that the reader puts on the second byte of
a character shut out overlong forms and surrogates, and no character has either.  For the same reason no other bytes are
read as that text (`decode?_eq_some_iff`).  A byte below 0x80 is a character of its own (`mem_encodeChars_ascii`), so
separators can be looked for among the bytes.
-/
namespace ObjectRelay.Utf8

theorem toNat_toUInt8 {n : Nat} (h : n < 256) : n.toUInt8.toNat = n := by
  rw [Nat.toUInt8, UInt8.toNat_ofNat']
  exact Nat.mod_eq_of_lt h

/-- The continuation byte that holds the last six bits of a number. -/
theorem toNat_last (n : Nat) : (0x80 + n % 64).toUInt8.toNat = 0x80 + n % 64 :=
  toNat_toUInt8 (by omega)

theorem Reader.run_cons {r r' : Reader} {b : UInt8} (h : r.step b = some r') (rest : List UInt8) :
    r.run (b :: rest) = r'.run rest := by
  rw [Reader.run, h]

/-- A continuation byte within its bounds that is not the last one. -/
theorem Reader.step_more {chars : List Char} {count value n : Nat} {low high : UInt8}
    (hl : low.toNat ≤ 0x80 + n % 64) (hh : 0x80 + n % 64 ≤ high.toNat) (hc : 1 < count) :
    Reader.step ⟨chars, some ⟨count, low, high, value⟩⟩ (0x80 + n % 64).toUInt8 =
      some ⟨chars, some ⟨count - 1, 0x80, 0xBF, value * 64 + n % 64⟩⟩ := by
  have hlb : low ≤ (0x80 + n % 64).toUInt8 := UInt8.le_iff_toNat_le.2 (by rwa [toNat_last])
  have hbh : (0x80 + n % 64).toUInt8 ≤ high := UInt8.le_iff_toNat_le.2 (by rwa [toNat_last])
  simp only [Reader.step, hlb, hbh, decide_true, Bool.and_self, if_true, Nat.not_le.2 hc, if_false, toNat_last,
    Nat.add_sub_cancel_left]

/-- The last continuation byte completes a character. -/
theorem Reader.step_last (chars : List Char) (value n : Nat) :
    Reader.step ⟨chars, some ⟨1, 0x80, 0xBF, value⟩⟩ (0x80 + n % 64).toUInt8 =
      some ⟨Char.ofNat (value * 64 + n % 64) :: chars, none⟩ := by
  have hlb : 0x80 ≤ (0x80 + n % 64).toUInt8 := UInt8.le_iff_toNat_le.2 (by rw [toNat_last]; exact Nat.le_add_right _ _)
  have hbh : (0x80 + n % 64).toUInt8 ≤ 0xBF :=
    UInt8.le_iff_toNat_le.2 (by rw [toNat_last]; show _ ≤ 0xBF; omega)
  simp only [Reader.step, hlb, hbh, decide_true, Bool.and_self, if_true, Nat.le_refl, toNat_last,
    Nat.add_sub_cancel_left]

theorem Reader.step_lead {chars : List Char} {o : Owed} {b : UInt8} (hb : 0x80 ≤ b.toNat)
    (ho : Owed.ofLead b = some o) : Reader.step ⟨chars, none⟩ b = some ⟨chars, some o⟩ := by
  have : ¬ b < 0x80 := by rw [UInt8.lt_iff_toNat_lt]; exact Nat.not_lt.2 hb
  simp [Reader.step, this, ho]

theorem Reader.step_ascii {chars : List Char} {b : UInt8} (hb : b.toNat < 0x80) :
    Reader.step ⟨chars, none⟩ b = some ⟨Char.ofNat b.toNat :: chars, none⟩ := by
  have : b < 0x80 := UInt8.lt_iff_toNat_lt.2 hb
  simp [Reader.step, this]

/-- The number of a character is no surrogate. -/
theorem toNat_valid (c : Char) : c.toNat < 0xD800 ∨ 0xDFFF < c.toNat ∧ c.toNat < 0x110000 := c.valid

theorem ofLead_two {n : Nat} (h : 0x80 ≤ n) (h' : n < 0x800) :
    Owed.ofLead (0xC0 + n / 64).toUInt8 = some ⟨1, 0x80, 0xBF, n / 64⟩ := by
  have hb : (0xC0 + n / 64).toUInt8.toNat = 0xC0 + n / 64 := toNat_toUInt8 (by omega)
  simp only [Owed.ofLead, hb]
  rw [if_neg (by omega), if_pos (by omega)]
  simp

/-- The bounds of the second byte of three leave out overlong forms and surrogates, and the
characters have neither. -/
theorem ofLead_three {n : Nat} (h : 0x800 ≤ n) (h' : n < 0x10000) (hs : n < 0xD800 ∨ 0xDFFF < n) :
    ∃ low high, Owed.ofLead (0xE0 + n / 4096).toUInt8 = some ⟨2, low, high, n / 4096⟩ ∧
      low.toNat ≤ 0x80 + n / 64 % 64 ∧ 0x80 + n / 64 % 64 ≤ high.toNat := by
  have hb : (0xE0 + n / 4096).toUInt8.toNat = 0xE0 + n / 4096 := toNat_toUInt8 (by omega)
  simp only [Owed.ofLead, hb]
  rw [if_neg (by omega), if_neg (by omega)]
  by_cases h0 : n / 4096 = 0
  · refine ⟨0xA0, 0xBF, by simp [h0], ?_, ?_⟩
    · show 0xA0 ≤ _
      omega
    · show _ ≤ 0xBF
      omega
  · by_cases hd : n / 4096 = 0xD
    · refine ⟨0x80, 0x9F, by simp [hd], ?_, ?_⟩
      · show 0x80 ≤ _
        omega
      · show _ ≤ 0x9F
        omega
    · refine ⟨0x80, 0xBF, ?_, ?_, ?_⟩
      · have h1 : (0xE0 + n / 4096 == 0xE0) = false := by simp; omega
        have h2 : (0xE0 + n / 4096 == 0xED) = false := by simp; omega
        rw [h1, h2, if_neg (by simp), if_neg (by simp), if_pos (by omega), Nat.add_sub_cancel_left]
      · show 0x80 ≤ _
        omega
      · show _ ≤ 0xBF
        omega

theorem ofLead_four {n : Nat} (h : 0x10000 ≤ n) (h' : n < 0x110000) :
    ∃ low high, Owed.ofLead (0xF0 + n / 262144).toUInt8 = some ⟨3, low, high, n / 262144⟩ ∧
      low.toNat ≤ 0x80 + n / 4096 % 64 ∧ 0x80 + n / 4096 % 64 ≤ high.toNat := by
  have hb : (0xF0 + n / 262144).toUInt8.toNat = 0xF0 + n / 262144 := toNat_toUInt8 (by omega)
  simp only [Owed.ofLead, hb]
  rw [if_neg (by omega), if_neg (by omega), if_neg (by simp; omega), if_neg (by simp; omega),
    if_neg (by omega)]
  by_cases h0 : n / 262144 = 0
  · refine ⟨0x90, 0xBF, by simp [h0], ?_, ?_⟩
    · show 0x90 ≤ _
      omega
    · show _ ≤ 0xBF
      omega
  · rw [if_neg (by simp; omega)]
    by_cases h4 : n / 262144 = 4
    · refine ⟨0x80, 0x8F, by simp [h4], ?_, ?_⟩
      · show 0x80 ≤ _
        omega
      · show _ ≤ 0x8F
        omega
    · refine ⟨0x80, 0xBF, ?_, ?_, ?_⟩
      · rw [if_pos (by omega), Nat.add_sub_cancel_left]
      · show 0x80 ≤ _
        omega
      · show _ ≤ 0xBF
        omega

/-- **The bytes of a character read as that character.** -/
theorem Reader.run_encodeChar (chars : List Char) (c : Char) (rest : List UInt8) :
    Reader.run ⟨chars, none⟩ (encodeChar c ++ rest) = Reader.run ⟨c :: chars, none⟩ rest := by
  have hc := toNat_valid c
  have hofNat : Char.ofNat c.toNat = c := Char.ofNat_toNat c
  unfold encodeChar
  generalize c.toNat = n at hc hofNat
  simp only
  split
  · rename_i h
    have hb : n.toUInt8.toNat = n := toNat_toUInt8 (by omega)
    rw [List.singleton_append, run_cons (step_ascii (by omega)), hb, hofNat]
  rename_i h1
  split
  · rename_i h2
    have hb : (0xC0 + n / 64).toUInt8.toNat = 0xC0 + n / 64 := toNat_toUInt8 (by omega)
    have hn : n / 64 * 64 + n % 64 = n := by omega
    rw [List.cons_append, List.singleton_append, run_cons (step_lead (by omega) (ofLead_two (by omega) h2)),
      run_cons (step_last _ _ _), hn, hofNat]
  rename_i h2
  split
  · rename_i h3
    have hb : (0xE0 + n / 4096).toUInt8.toNat = 0xE0 + n / 4096 := toNat_toUInt8 (by omega)
    obtain ⟨low, high, hlead, hl, hh⟩ := ofLead_three (by omega) h3 (by omega)
    have hn : (n / 4096 * 64 + n / 64 % 64) * 64 + n % 64 = n := by omega
    rw [List.cons_append, List.cons_append, List.singleton_append, run_cons (step_lead (by omega) hlead),
      run_cons (step_more hl hh (by omega)), run_cons (step_last _ _ _), hn, hofNat]
  · rename_i h3
    have hb : (0xF0 + n / 262144).toUInt8.toNat = 0xF0 + n / 262144 := toNat_toUInt8 (by omega)
    obtain ⟨low, high, hlead, hl, hh⟩ := ofLead_four (n := n) (by omega) (by omega)
    have hn : ((n / 262144 * 64 + n / 4096 % 64) * 64 + n / 64 % 64) * 64 + n % 64 = n := by omega
    have hstd : (0x80 : UInt8).toNat ≤ 0x80 + n / 64 % 64 ∧ 0x80 + n / 64 % 64 ≤ (0xBF : UInt8).toNat := by
      constructor
      · exact Nat.le_add_right _ _
      · show _ ≤ 0xBF
        omega
    rw [List.cons_append, List.cons_append, List.cons_append, List.singleton_append,
      run_cons (step_lead (by omega) hlead), run_cons (step_more hl hh (by omega)),
      run_cons (step_more hstd.1 hstd.2 (by omega)), run_cons (step_last _ _ _), hn, hofNat]

theorem encodeChars_append (a b : List Char) : encodeChars (a ++ b) = encodeChars a ++ encodeChars b :=
  List.flatMap_append

theorem encodeChars_singleton (c : Char) : encodeChars [c] = encodeChar c := by
  rw [encodeChars, List.flatMap_singleton]

theorem Reader.run_encodeChars : ∀ (s chars : List Char),
    Reader.run ⟨chars, none⟩ (encodeChars s) = some ⟨s.reverse ++ chars, none⟩
  | [], chars => rfl
  | c :: s, chars => by
    rw [encodeChars, List.flatMap_cons, run_encodeChar, ← encodeChars, run_encodeChars s (c :: chars),
      List.reverse_cons, List.append_assoc, List.singleton_append]

/-- **Text survives being written as bytes.** -/
theorem decode?_encodeChars (s : List Char) : decode? (encodeChars s) = some (String.ofList s) := by
  rw [decode?, decodeChars?, Reader.run_encodeChars]
  simp

theorem decode?_encode (s : String) : decode? (encode s) = some s := by
  rw [encode, decode?_encodeChars, String.ofList_toList]

theorem encodeChar_ascii {c : Char} (h : c.toNat < 0x80) : encodeChar c = [c.toNat.toUInt8] := by
  simp only [encodeChar, h, if_true]

/-- The last `k` bytes of a longer character with this number. -/
def lastBytes : Nat → Nat → List UInt8
  | 0, _ => []
  | k + 1, n => (0x80 + n / 64 ^ k % 64).toUInt8 :: lastBytes k n

theorem exists_of_mem_lastBytes {n : Nat} {b : UInt8} : ∀ {k}, b ∈ lastBytes k n → ∃ m, b = (0x80 + m % 64).toUInt8
  | 0, h => absurd h List.not_mem_nil
  | k + 1, h => by
    rcases List.mem_cons.1 h with rfl | h
    · exact ⟨n / 64 ^ k, rfl⟩
    · exact exists_of_mem_lastBytes h

/-- The number of a character of more than one byte: `k` bytes follow the first one, which holds what is left of it
above `base`. -/
inductive IsLong : Nat → Nat → Nat → Prop
  | two {n} (hle : 0x80 ≤ n) (hlt : n < 0x800) : IsLong 0xC0 1 n
  | three {n} (hle : 0x800 ≤ n) (hlt : n < 0x10000) : IsLong 0xE0 2 n
  | four {n} (hle : 0x10000 ≤ n) (hlt : n < 0x110000) : IsLong 0xF0 3 n

theorem exists_isLong {c : Char} (h : 0x80 ≤ c.toNat) : ∃ base k, IsLong base k c.toNat := by
  by_cases htwo : c.toNat < 0x800
  · exact ⟨_, _, .two h htwo⟩
  by_cases hthree : c.toNat < 0x10000
  · exact ⟨_, _, .three (Nat.not_lt.1 htwo) hthree⟩
  · have hvalid := toNat_valid c
    exact ⟨_, _, .four (Nat.not_lt.1 hthree) (by omega)⟩

theorem IsLong.first {base k n : Nat} (h : IsLong base k n) : 0xC0 ≤ base ∧ base + n / 64 ^ k < 256 := by
  cases h
  all_goals
    simp only [Nat.reducePow]
    omega

theorem encodeChar_of_isLong {c : Char} {base k : Nat} (h : IsLong base k c.toNat) :
    encodeChar c = (base + c.toNat / 64 ^ k).toUInt8 :: lastBytes k c.toNat := by
  unfold encodeChar
  generalize c.toNat = n at h ⊢
  dsimp only
  cases h with
  | two hle hlt =>
    rw [if_neg (by omega), if_pos hlt]
    simp [lastBytes]
  | three hle hlt =>
    rw [if_neg (by omega), if_neg (by omega), if_pos hlt]
    simp [lastBytes]
  | four hle hlt =>
    rw [if_neg (by omega), if_neg (by omega), if_neg (by omega)]
    simp [lastBytes]

/-- No byte of a longer character could stand for a character of its own. -/
theorem le_toNat_of_mem_encodeChar {c : Char} (h : 0x80 ≤ c.toNat) {b : UInt8} (hb : b ∈ encodeChar c) :
    0x80 ≤ b.toNat := by
  obtain ⟨base, k, hlong⟩ := exists_isLong h
  obtain ⟨hbase, hfirst⟩ := hlong.first
  rw [encodeChar_of_isLong hlong] at hb
  rcases List.mem_cons.1 hb with rfl | hb
  · rw [toNat_toUInt8 hfirst]
    exact Nat.le_add_right_of_le (Nat.le_trans (by decide) hbase)
  · obtain ⟨m, rfl⟩ := exists_of_mem_lastBytes hb
    rw [toNat_last]
    exact Nat.le_add_right _ _

/-- A byte below 0x80 is a character of its own and shows up in no other. -/
theorem mem_encodeChars_ascii {s : List Char} {c : Char} (hc : c.toNat < 0x80) :
    c.toNat.toUInt8 ∈ encodeChars s ↔ c ∈ s := by
  have hb : c.toNat.toUInt8.toNat = c.toNat := toNat_toUInt8 (by omega)
  rw [encodeChars, List.mem_flatMap]
  constructor
  · rintro ⟨d, hd, hm⟩
    by_cases h : d.toNat < 0x80
    · rw [encodeChar_ascii h, List.mem_singleton] at hm
      have hdb : d.toNat.toUInt8.toNat = d.toNat := toNat_toUInt8 (by omega)
      have hcd : c.toNat = d.toNat := by rw [← hb, ← hdb, hm]
      rwa [← Char.ofNat_toNat c, hcd, Char.ofNat_toNat]
    · have := le_toNat_of_mem_encodeChar (Nat.not_lt.1 h) hm
      omega
  · exact fun h => ⟨c, h, by rw [encodeChar_ascii hc]; exact List.mem_singleton_self _⟩

/-! ## Bytes that are text -/

theorem toUInt8_eq {n : Nat} {b : UInt8} (h : n = b.toNat) : n.toUInt8 = b := by
  subst h
  exact UInt8.ofNat_toNat

theorem toNat_ofNat {n : Nat} (h : n < 0xD800 ∨ 0xDFFF < n ∧ n < 0x110000) : (Char.ofNat n).toNat = n := by
  have hvalid : n.isValidChar := h
  rw [Char.ofNat, dif_pos hvalid]
  rfl

/-- **The bytes read so far begin a character**: together with the bytes that are owed they are those of any number that
begins with what has been read of it, within the bounds. -/
structure Owed.Begins (o : Owed) (begun : List UInt8) : Prop where
  count : 0 < o.count
  low : 0x80 ≤ o.low.toNat
  high : o.high.toNat ≤ 0xBF
  encodes : ∀ n, n / 64 ^ o.count = o.value → o.low.toNat ≤ 0x80 + n / 64 ^ (o.count - 1) % 64 →
    0x80 + n / 64 ^ (o.count - 1) % 64 ≤ o.high.toNat → encodeChar (Char.ofNat n) = begun ++ lastBytes o.count n

theorem begins_of_isLong {b low high : UInt8} {value base k : Nat} (hk : 0 < k) (hlow : 0x80 ≤ low.toNat)
    (hhigh : high.toNat ≤ 0xBF) (h : ∀ n, n / 64 ^ k = value → low.toNat ≤ 0x80 + n / 64 ^ (k - 1) % 64 →
      0x80 + n / 64 ^ (k - 1) % 64 ≤ high.toNat →
      (n < 0xD800 ∨ 0xDFFF < n ∧ n < 0x110000) ∧ IsLong base k n ∧ base + n / 64 ^ k = b.toNat) :
    (Owed.mk k low high value).Begins [b] where
  count := hk
  low := hlow
  high := hhigh
  encodes n hn hnlow hnhigh := by
    obtain ⟨hvalid, hlong, hb⟩ := h n hn hnlow hnhigh
    have hnumber := toNat_ofNat hvalid
    rw [encodeChar_of_isLong (hnumber.symm ▸ hlong), hnumber, toUInt8_eq hb, List.singleton_append]

/-- The bounds that a first byte puts on the second leave nothing but characters, each in its shortest form. -/
theorem begins_of_ofLead {b : UInt8} {o : Owed} (h : Owed.ofLead b = some o) : o.Begins [b] := by
  have hbyte := b.toNat_lt
  simp only [Owed.ofLead, beq_iff_eq] at h
  repeat' split at h
  all_goals cases h
  · refine begins_of_isLong (by decide) (by decide) (by decide) fun n hn _ _ => ⟨?_, .two ?_ ?_, ?_⟩
    all_goals
      simp only [Nat.reducePow] at hn ⊢
      omega
  iterate 3
    · refine begins_of_isLong (by decide) (by decide) (by decide) fun n hn hlow hhigh => ⟨?_, .three ?_ ?_, ?_⟩
      all_goals
        simp only [UInt8.reduceToNat, Nat.reduceSub, Nat.reducePow] at hn hlow hhigh ⊢
        omega
  iterate 3
    · refine begins_of_isLong (by decide) (by decide) (by decide) fun n hn hlow hhigh => ⟨?_, .four ?_ ?_, ?_⟩
      all_goals
        simp only [UInt8.reduceToNat, Nat.reduceSub, Nat.reducePow] at hn hlow hhigh ⊢
        omega

section Continuation

variable {o : Owed} {begun : List UInt8} (h : o.Begins begun) {b : UInt8} (hlow : o.low ≤ b) (hhigh : b ≤ o.high)
include h hlow hhigh

theorem Owed.Begins.le_byte : 0x80 ≤ b.toNat ∧ b.toNat - 0x80 < 64 := by
  have hl := UInt8.le_iff_toNat_le.1 hlow
  have hh := UInt8.le_iff_toNat_le.1 hhigh
  have := h.low
  have := h.high
  omega

/-- The bytes of a number that goes on with the byte. -/
theorem Owed.Begins.encodes_of_byte {n : Nat} (hn : n / 64 ^ (o.count - 1) = o.value * 64 + (b.toNat - 0x80)) :
    encodeChar (Char.ofNat n) = begun ++ b :: lastBytes (o.count - 1) n := by
  obtain ⟨hle, hlt⟩ := h.le_byte hlow hhigh
  have hcount : o.count = o.count - 1 + 1 := (Nat.sub_add_cancel h.count).symm
  have hlast : 0x80 + n / 64 ^ (o.count - 1) % 64 = b.toNat := by omega
  have hvalue : n / 64 ^ o.count = o.value := by
    rw [hcount, Nat.pow_succ, ← Nat.div_div_eq_div_mul]
    omega
  have hencodes := h.encodes n hvalue
  rw [hlast] at hencodes
  rw [hencodes (UInt8.le_iff_toNat_le.1 hlow) (UInt8.le_iff_toNat_le.1 hhigh), hcount, lastBytes, Nat.add_sub_cancel,
    hlast, toUInt8_eq rfl]

theorem Owed.Begins.last (hlast : o.count ≤ 1) :
    encodeChar (Char.ofNat (o.value * 64 + (b.toNat - 0x80))) = begun ++ [b] := by
  have hzero : o.count - 1 = 0 := Nat.sub_eq_zero_of_le hlast
  rw [h.encodes_of_byte hlow hhigh (by rw [hzero, Nat.pow_zero, Nat.div_one]), hzero, lastBytes]

theorem Owed.Begins.next (hmore : ¬o.count ≤ 1) :
    Begins ⟨o.count - 1, 0x80, 0xBF, o.value * 64 + (b.toNat - 0x80)⟩ (begun ++ [b]) where
  count := Nat.sub_pos_of_lt (Nat.not_le.1 hmore)
  low := Nat.le_refl _
  high := Nat.le_refl _
  encodes n hn _ _ := by rw [h.encodes_of_byte hlow hhigh hn, List.append_assoc, List.singleton_append]

end Continuation

/-- **The bytes that have been read** are those of the characters read and those that begin the next one. -/
def Reader.Spells (r : Reader) (bytes : List UInt8) : Prop := match r.owed with
  | none => bytes = encodeChars r.chars.reverse
  | some o => ∃ begun, bytes = encodeChars r.chars.reverse ++ begun ∧ o.Begins begun

theorem encodeChars_reverse_cons (c : Char) (chars : List Char) :
    encodeChars (c :: chars).reverse = encodeChars chars.reverse ++ encodeChar c := by
  rw [List.reverse_cons, encodeChars_append, encodeChars_singleton]

theorem Reader.spells_step {r next : Reader} {b : UInt8} {bytes : List UInt8} (hr : r.Spells bytes)
    (h : r.step b = some next) : next.Spells (bytes ++ [b]) := by
  obtain ⟨chars, owed⟩ := r
  cases owed with
  | none =>
    obtain rfl : bytes = encodeChars chars.reverse := hr
    simp only [step] at h
    split at h
    · rename_i hascii
      cases h
      have hb : b.toNat < 0x80 := UInt8.lt_iff_toNat_lt.1 hascii
      have hchar : (Char.ofNat b.toNat).toNat = b.toNat := toNat_ofNat (.inl (by omega))
      show _ = _
      rw [encodeChars_reverse_cons, encodeChar_ascii (by rwa [hchar]), hchar, toUInt8_eq rfl]
    · obtain ⟨o, ho, hnext⟩ := Option.map_eq_some_iff.1 h
      cases hnext
      exact ⟨[b], rfl, begins_of_ofLead ho⟩
  | some o =>
    obtain ⟨begun, rfl, hbegins⟩ := hr
    simp only [step] at h
    split at h
    · rename_i hb
      rw [Bool.and_eq_true, decide_eq_true_eq, decide_eq_true_eq] at hb
      split at h
      · rename_i hlast
        cases h
        show _ = _
        rw [encodeChars_reverse_cons, hbegins.last hb.1 hb.2 hlast, List.append_assoc]
      · rename_i hmore
        cases h
        exact ⟨begun ++ [b], List.append_assoc _ _ _, hbegins.next hb.1 hb.2 hmore⟩
    · cases h

theorem Reader.spells_run : ∀ {bytes read : List UInt8} {r final : Reader}, r.Spells read → r.run bytes = some final →
    final.Spells (read ++ bytes)
  | [], read, r, final, hr, h => by
    cases h
    rwa [List.append_nil]
  | b :: rest, read, r, final, hr, h => by
    rw [run] at h
    cases hstep : r.step b with
    | none =>
      rw [hstep] at h
      cases h
    | some next =>
      rw [hstep] at h
      have hfinal := spells_run (spells_step hr hstep) h
      rwa [List.append_assoc, List.singleton_append] at hfinal

/-- **Bytes are a text exactly if they are the bytes of that text.** -/
theorem decode?_eq_some_iff {bytes : List UInt8} {s : String} : decode? bytes = some s ↔ encode s = bytes := by
  constructor
  · intro h
    obtain ⟨chars, hchars, rfl⟩ := Option.map_eq_some_iff.1 h
    unfold decodeChars? at hchars
    split at hchars
    · rename_i read hrun
      cases hchars
      have hspells : Reader.Spells ⟨read, none⟩ ([] ++ bytes) := Reader.spells_run (r := {}) rfl hrun
      rw [encode, String.toList_ofList]
      exact hspells.symm
    · cases hchars
  · rintro rfl
    exact decode?_encode s

end ObjectRelay.Utf8
