import ObjectRelay.Json.Reader
import ObjectRelay.Proofs.Text.Utf8
import Mathlib.Tactic.SplitIfs
/-!
# Strings and integers are read as they are written

A string is written character by character, and what is written for a character is read as that character
(`StringReader.feed?_escapeChar`).  An integer is written in decimal digits, and 64 bits hold it at every digit
(`NumberReader.feed?_toDigits`).
-/
namespace ObjectRelay.Json

open Utf8 (encodeChar encodeChars)

/-! ## Strings -/

namespace StringReader

/-- The reader behind a byte, `none` when the string ends or breaks there. -/
def more? (s : StringReader) (b : UInt8) : Option StringReader := match s.step b with
  | .more s => some s
  | _ => none

def feed? (s : StringReader) (bytes : List UInt8) : Option StringReader := bytes.foldlM more? s

theorem feed?_cons (s : StringReader) (b : UInt8) (rest : List UInt8) :
    s.feed? (b :: rest) = (s.more? b).bind fun s => s.feed? rest := List.foldlM_cons

theorem feed?_append {a : List UInt8} {s s' : StringReader} (h : s.feed? a = some s') (b : List UInt8) :
    s.feed? (a ++ b) = s'.feed? b := by
  rw [feed?, List.foldlM_append, ← feed?, h]
  rfl

/-- A byte that stands for itself in a string. -/
def IsBare (b : UInt8) : Prop := b ≠ 0x22 ∧ b ≠ 0x5C ∧ ¬b < 0x20

theorem feed?_bare (read : List UInt8) : ∀ {bytes : List UInt8}, (∀ b ∈ bytes, IsBare b) → ∀ before : List UInt8,
    feed? { read := before ++ read } bytes = some { read := bytes.reverse ++ (before ++ read) }
  | [], _, _ => rfl
  | b :: rest, h, before => by
    obtain ⟨hquote, hback, hplain⟩ := h b List.mem_cons_self
    have hmore : more? { read := before ++ read } b = some { read := b :: (before ++ read) } := by
      simp [more?, step, hquote, hback, hplain]
    rw [feed?_cons, hmore, Option.bind_some, ← List.cons_append,
      feed?_bare read (fun b' hb' => h b' (List.mem_cons_of_mem _ hb')) (b :: before)]
    simp

theorem isBare_of_mem_encodeChar {c : Char} (hquote : c ≠ '"') (hback : c ≠ '\\') (hplain : 0x20 ≤ c.toNat) :
    ∀ b ∈ encodeChar c, IsBare b := by
  intro b hb
  by_cases h : c.toNat < 0x80
  · rw [Utf8.encodeChar_ascii h, List.mem_singleton] at hb
    have htoNat : b.toNat = c.toNat := by rw [hb, Utf8.toNat_toUInt8 (by omega)]
    have hne : ∀ d : Char, c ≠ d → b.toNat ≠ d.toNat := fun d hd heq =>
      hd (by rw [← Char.ofNat_toNat c, ← htoNat, heq, Char.ofNat_toNat])
    refine ⟨fun heq => hne '"' hquote (heq ▸ rfl), fun heq => hne '\\' hback (heq ▸ rfl), fun hlt => ?_⟩
    have hlt : b.toNat < 0x20 := UInt8.lt_iff_toNat_lt.1 hlt
    omega
  · have hb := Utf8.le_toNat_of_mem_encodeChar (Nat.not_lt.1 h) hb
    refine ⟨fun heq => ?_, fun heq => ?_, fun hlt => ?_⟩
    · rw [heq] at hb
      exact absurd hb (by decide)
    · rw [heq] at hb
      exact absurd hb (by decide)
    · have hlt : b.toNat < 0x20 := UInt8.lt_iff_toNat_lt.1 hlt
      omega

theorem hexNumber?_control : ∀ n < 0x20,
    hexNumber? [(Nat.digitChar (n % 16)).toNat.toUInt8, (Nat.digitChar (n / 16)).toNat.toUInt8, 0x30, 0x30] = some n := by
  decide

theorem toNat_digitChar_lt : ∀ n < 16, (Nat.digitChar n).toNat < 0x80 := by decide

theorem feed?_control {n : Nat} (h : n < 0x20) (read : List UInt8) :
    feed? { read } (encodeChars ['\\', 'u', '0', '0', Nat.digitChar (n / 16), Nat.digitChar (n % 16)]) =
      some { read := (encodeChar (Char.ofNat n)).reverse ++ read } := by
  have hbytes : encodeChars ['\\', 'u', '0', '0', Nat.digitChar (n / 16), Nat.digitChar (n % 16)] =
      [0x5C, 0x75, 0x30, 0x30, (Nat.digitChar (n / 16)).toNat.toUInt8, (Nat.digitChar (n % 16)).toNat.toUInt8] := by
    simp only [encodeChars, List.flatMap_cons, List.flatMap_nil,
      Utf8.encodeChar_ascii (toNat_digitChar_lt (n / 16) (by omega)),
      Utf8.encodeChar_ascii (toNat_digitChar_lt (n % 16) (by omega))]
    rfl
  have hlow : ¬0xDC00 ≤ n := by omega
  have hhigh : ¬0xD800 ≤ n := by omega
  rw [hbytes]
  simp [feed?, more?, step, hexNumber?_control n h, escaped, push, hlow, hhigh]

/-- **What is written for a character is read as that character.** -/
theorem feed?_escapeChar (c : Char) (read : List UInt8) :
    feed? { read } (encodeChars (escapeChar c)) = some { read := (encodeChar c).reverse ++ read } := by
  unfold escapeChar
  split_ifs with hquote hback hplain hn ht hr hb hf
  · rw [eq_of_beq hquote]; rfl
  · rw [eq_of_beq hback]; rfl
  · have hbare := isBare_of_mem_encodeChar (by simpa using hquote) (by simpa using hback) hplain
    rw [Utf8.encodeChars_singleton]
    exact feed?_bare read hbare []
  · rw [eq_of_beq hn]; rfl
  · rw [eq_of_beq ht]; rfl
  · rw [eq_of_beq hr]; rfl
  · have hc : c = Char.ofNat 8 := by rw [← eq_of_beq hb, Char.ofNat_toNat]
    rw [hc]; rfl
  · have hc : c = Char.ofNat 12 := by rw [← eq_of_beq hf, Char.ofNat_toNat]
    rw [hc]; rfl
  · have h := feed?_control (Nat.lt_of_not_le hplain) read
    rwa [Char.ofNat_toNat] at h

theorem feed?_escapeChars : ∀ (cs : List Char) (read : List UInt8),
    feed? { read } (encodeChars (cs.flatMap escapeChar)) = some { read := (encodeChars cs).reverse ++ read }
  | [], _ => rfl
  | c :: cs, read => by
    rw [List.flatMap_cons, Utf8.encodeChars_append, feed?_append (feed?_escapeChar c read), feed?_escapeChars cs]
    simp [encodeChars]

end StringReader

/-! ## Integers -/

namespace NumberReader

/-- The reader behind a byte, `none` when the number ends or breaks there. -/
def more? (n : NumberReader) (b : UInt8) : Option NumberReader := match n.step b with
  | .more n => some n
  | _ => none

def feed? (n : NumberReader) (bytes : List UInt8) : Option NumberReader := bytes.foldlM more? n

theorem feed?_append {a : List UInt8} {n n' : NumberReader} (h : n.feed? a = some n') (b : List UInt8) :
    n.feed? (a ++ b) = n'.feed? b := by
  rw [feed?, List.foldlM_append, ← feed?, h]
  rfl

theorem feed?_cons (n : NumberReader) (b : UInt8) (rest : List UInt8) :
    n.feed? (b :: rest) = (n.more? b).bind fun n => n.feed? rest := List.foldlM_cons

theorem encodeChar_digitChar : ∀ d < 10, ∃ b, encodeChar (Nat.digitChar d) = [b] ∧ digit? b = some d := by
  intro d hd
  refine ⟨(Nat.digitChar d).toNat.toUInt8, Utf8.encodeChar_ascii ?_, ?_⟩
  · revert d; decide
  · revert d; decide

/-- The reader behind the digits of an integer. -/
def behindDigits (negative : Bool) (n : Nat) : NumberReader :=
  { phase := if n = 0 then .zero else .integer, negative, significand := n }

theorem number?_positive (n : Nat) : (behindDigits false n).number? = some (.int n) := by
  cases n <;> rfl

theorem number?_negative {n : Nat} (hn : n ≠ 0) (hle : ¬0x8000000000000000 < n) :
    (behindDigits true n).number? = some (.int (-(n : Int))) := by
  have hphase : behindDigits true n = { phase := .integer, negative := true, significand := n } := by
    rw [behindDigits, if_neg hn]
  have hsmall : (n == 0 || decide (0x8000000000000000 < n)) = false := by
    rw [decide_eq_false hle, beq_eq_false_iff_ne.2 hn]
    rfl
  rw [hphase, number?]
  dsimp only
  rw [hsmall]
  rfl

/-- **The digits of an integer of 64 bits are read as that integer**, at the beginning or behind a minus sign. -/
theorem feed?_toDigits (negative : Bool) (n : Nat) (h : n < UInt64.size) :
    feed? { phase := .sign, negative } (encodeChars (Nat.toDigits 10 n)) = some (behindDigits negative n) := by
  by_cases hn : n < 10
  · obtain ⟨b, hb, hd⟩ := encodeChar_digitChar n hn
    rw [Nat.toDigits_of_lt_base hn, Utf8.encodeChars_singleton, hb, feed?_cons, more?, step, hd]
    cases n with
    | zero => rfl
    | succ n => rfl
  · have hlt : n / 10 < n := Nat.div_lt_self (by omega) (by omega)
    have hpos : n / 10 ≠ 0 := by omega
    obtain ⟨b, hb, hd⟩ := encodeChar_digitChar (n % 10) (Nat.mod_lt _ (by omega))
    have hsum : 10 * (n / 10) + n % 10 = n := Nat.div_add_mod n 10
    rw [Nat.toDigits_of_base_le (by omega) (Nat.le_of_not_lt hn), Utf8.encodeChars_append,
      feed?_append (feed?_toDigits negative (n / 10) (Nat.lt_trans hlt h)), Utf8.encodeChars_singleton, hb, behindDigits,
      if_neg hpos, feed?_cons, more?, step, hd]
    have hn : n ≠ 0 := by omega
    simp only [appendDigit?, hsum, h, if_true, Option.bind_some, feed?, List.foldlM_nil, pure, behindDigits, if_neg hn]
termination_by n

end NumberReader

end ObjectRelay.Json
