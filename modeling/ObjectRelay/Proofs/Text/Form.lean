import ObjectRelay.Text.Percent
import ObjectRelay.Proofs.Text.Utf8
namespace ObjectRelay.Percent

/-- A hexadecimal digit of either case, as a byte, and its value. -/
def IsHexDigit (digit : UInt8) (n : Nat) : Prop :=
  (Utf8.encode "0123456789ABCDEF")[n]? = some digit ∨ (Utf8.encode "0123456789abcdef")[n]? = some digit

instance (digit : UInt8) (n : Nat) : Decidable (IsHexDigit digit n) := by unfold IsHexDigit; infer_instance

/-- How bytes may be written in a form: a byte other than `%` and `+` as itself, a space as `+`, and any byte as
`%` and two hexadecimal digits. -/
inductive FormSpelling : (written bytes : List UInt8) → Prop where
  | nil : FormSpelling [] []
  | plain {b : UInt8} {written bytes : List UInt8} (percent : b ≠ 0x25) (plus : b ≠ 0x2B)
      (rest : FormSpelling written bytes) : FormSpelling (b :: written) (b :: bytes)
  | plus {written bytes : List UInt8} (rest : FormSpelling written bytes) :
      FormSpelling (0x2B :: written) (0x20 :: bytes)
  | escape {b high low : UInt8} {written bytes : List UInt8} (hh : IsHexDigit high (b.toNat / 16))
      (hl : IsHexDigit low (b.toNat % 16)) (rest : FormSpelling written bytes) :
      FormSpelling (0x25 :: high :: low :: written) (b :: bytes)

theorem digit?_upper : ∀ n : Fin 16, ∀ d ∈ (Utf8.encode "0123456789ABCDEF")[n.val]?,
    digit? d = some (UInt8.ofNat n) ∧ d ≠ 0x2B := by decide +kernel

theorem digit?_lower : ∀ n : Fin 16, ∀ d ∈ (Utf8.encode "0123456789abcdef")[n.val]?,
    digit? d = some (UInt8.ofNat n) ∧ d ≠ 0x2B := by decide +kernel

theorem digit?_of_isHexDigit {digit : UInt8} {n : Nat} (hn : n < 16) (h : IsHexDigit digit n) :
    digit? digit = some (UInt8.ofNat n) ∧ digit ≠ 0x2B :=
  h.elim (digit?_upper ⟨n, hn⟩ digit) (digit?_lower ⟨n, hn⟩ digit)

/-- A plus as a space, on the bytes. -/
def spaced (b : UInt8) : UInt8 := if b = 0x2B then 0x20 else b

theorem spaced_of_ne {b : UInt8} (h : b ≠ 0x2B) : spaced b = b := if_neg h

theorem byte?_of_isHexDigit {b high low : UInt8} (hh : IsHexDigit high (b.toNat / 16))
    (hl : IsHexDigit low (b.toNat % 16)) : byte? high low = some b := by
  have hb : b.toNat < 256 := b.toNat_lt
  have h16 : b.toNat / 16 < 16 := by omega
  have h : (UInt8.ofNat (b.toNat / 16) * 16 + UInt8.ofNat (b.toNat % 16)) = b := by
    apply UInt8.toNat.inj
    rw [UInt8.toNat_add, UInt8.toNat_mul, UInt8.toNat_ofNat', UInt8.toNat_ofNat']
    show (b.toNat / 16 % 256 * 16 % 256 + b.toNat % 16 % 256) % 256 = b.toNat
    omega
  simp [byte?, (digit?_of_isHexDigit h16 hh).1, (digit?_of_isHexDigit (Nat.mod_lt _ (by decide)) hl).1, h]

theorem decode_cons_of_ne {b : UInt8} (h : b ≠ 0x25) (rest : List UInt8) : decode (b :: rest) = b :: decode rest := by
  rw [decode]
  intro high low tail hb
  exact absurd hb h

/-- **Decoding reads every spelling**, its pluses having been made spaces. -/
theorem decode_spelling {written bytes : List UInt8} (h : FormSpelling written bytes) :
    decode (written.map spaced) = bytes := by
  induction h with
  | nil => rfl
  | plain percent plus _ ih => rw [List.map_cons, spaced_of_ne plus, decode_cons_of_ne percent, ih]
  | plus _ ih => rw [List.map_cons, show spaced 0x2B = 0x20 from rfl, decode_cons_of_ne (by decide), ih]
  | @escape b high low _ _ hh hl _ ih =>
    have hb : b.toNat < 256 := b.toNat_lt
    have hplus := (digit?_of_isHexDigit (by omega) hh).2
    have hplus' := (digit?_of_isHexDigit (by omega) hl).2
    rw [List.map_cons, List.map_cons, List.map_cons, spaced_of_ne hplus, spaced_of_ne hplus',
      show spaced 0x25 = 0x25 from rfl, decode, byte?_of_isHexDigit hh hl]
    simp only [ih]

theorem encodeChar_spaced (c : Char) :
    Utf8.encodeChar (if c == '+' then ' ' else c) = (Utf8.encodeChar c).map spaced := by
  by_cases h : c = '+'
  · subst h; rfl
  · have hmem : (0x2B : UInt8) ∉ Utf8.encodeChars [c] := fun hm =>
      h (List.mem_singleton.1 ((Utf8.mem_encodeChars_ascii (c := '+') (by decide)).1 hm)).symm
    rw [Utf8.encodeChars, List.flatMap_singleton] at hmem
    have hid : (Utf8.encodeChar c).map spaced = (Utf8.encodeChar c).map id :=
      List.map_congr_left fun b hb => spaced_of_ne fun hb' => hmem (hb' ▸ hb)
    rw [if_neg (by simpa using h), hid, List.map_id]

theorem encodeChars_spaced (s : List Char) :
    Utf8.encodeChars (s.map fun c => if c == '+' then ' ' else c) = (Utf8.encodeChars s).map spaced := by
  rw [Utf8.encodeChars, Utf8.encodeChars, List.flatMap_map, List.map_flatMap]
  exact congrArg (fun f => s.flatMap f) (funext encodeChar_spaced)

/-- **A text is read back from every form in which its bytes are spelled.** -/
theorem formDecode_of_spelling {written text : String}
    (h : FormSpelling (Utf8.encode written) (Utf8.encode text)) : formDecode written = text := by
  have hbytes : decode (Utf8.encodeChars (written.toList.map fun c => if c == '+' then ' ' else c)) =
      Utf8.encode text := by
    rw [encodeChars_spaced]
    exact decode_spelling h
  simp only [formDecode]
  rw [hbytes, Utf8.decode?_encode]
  rfl

end ObjectRelay.Percent
