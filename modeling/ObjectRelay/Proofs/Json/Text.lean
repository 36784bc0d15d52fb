import ObjectRelay.Batch.Buffer
import ObjectRelay.Json.Value
import ObjectRelay.Proofs.Text.Utf8
import Mathlib.Tactic.SplitIfs
/-!
# The text of a value fits on a line

Controls are escaped in strings and the rest of a text is digits and signs, so no text holds a control at
all (`isPlain_chars`).  A line end therefore always stands behind a value, never inside one
(`lineEnd_notMem_text`).
-/
namespace ObjectRelay.Json

/-- Whether there is no control among characters. -/
def IsPlain (cs : List Char) : Prop := ∀ c ∈ cs, 0x20 ≤ c.toNat

-- Through the list's own elements: among the characters there are too many to go through.
instance : DecidablePred IsPlain := fun cs =>
  show Decidable (∀ c ∈ cs, 0x20 ≤ c.toNat) from List.decidableBAll (fun c => 0x20 ≤ c.toNat) cs

namespace IsPlain

variable {a b : List Char}

theorem append (ha : IsPlain a) (hb : IsPlain b) : IsPlain (a ++ b) := List.forall_mem_append.2 ⟨ha, hb⟩

theorem cons {c : Char} (hc : 0x20 ≤ c.toNat) (ha : IsPlain a) : IsPlain (c :: a) :=
  List.forall_mem_cons.2 ⟨hc, ha⟩

theorem take (n : Nat) (ha : IsPlain a) : IsPlain (a.take n) := fun c hc => ha c (List.mem_of_mem_take hc)

theorem drop (n : Nat) (ha : IsPlain a) : IsPlain (a.drop n) := fun c hc => ha c (List.mem_of_mem_drop hc)

end IsPlain

theorem isPlain_toDigits (n : Nat) : IsPlain (Nat.toDigits 10 n) := by
  intro c hc
  have hdigit := Nat.isDigit_of_mem_toDigits (by decide) (by decide) hc
  rw [Char.isDigit, Bool.and_eq_true, decide_eq_true_eq] at hdigit
  exact Nat.le_trans (by decide) (UInt32.le_iff_toNat_le.1 hdigit.1)

theorem isPlain_zeros (n : Nat) : IsPlain (List.replicate n '0') := by
  intro c hc
  rw [List.eq_of_mem_replicate hc]
  decide

theorem le_toNat_digitChar : ∀ n < 16, 0x20 ≤ (Nat.digitChar n).toNat := by decide

theorem isPlain_escapeChar (a : Char) : IsPlain (escapeChar a) := by
  unfold escapeChar
  split_ifs with hquote hback hplain
  · decide
  · decide
  · exact .cons hplain (by decide)
  · decide
  · decide
  · decide
  · decide
  · decide
  · have hlt : a.toNat < 0x20 := Nat.lt_of_not_le hplain
    have hlow := le_toNat_digitChar (a.toNat % 16) (by omega)
    exact .append (by decide : IsPlain ['\\', 'u', '0', '0'])
      (.cons (le_toNat_digitChar _ (by omega)) (.cons hlow (by decide)))

theorem isPlain_stringChars (s : String) : IsPlain (stringChars s) := by
  refine .append (.cons (by decide) fun c hc => ?_) (by decide)
  obtain ⟨a, -, hc⟩ := List.mem_flatMap.1 hc
  exact isPlain_escapeChar a c hc

theorem isPlain_intChars (i : Int) : IsPlain (intChars i) := by
  unfold intChars
  split
  · exact .cons (by decide) (isPlain_toDigits _)
  · exact isPlain_toDigits _

theorem isPlain_exponentSign (e : Int) : IsPlain ['e', if e < 0 then '-' else '+'] := by
  split <;> decide

theorem isPlain_floatChars (x : Binary64) : IsPlain (floatChars x) := by
  have hsign : ∀ {body : List Char}, IsPlain body → IsPlain (if x.negative then '-' :: body else body) := by
    intro body hbody
    split
    · exact .cons (by decide) hbody
    · exact hbody
  have hdigits := isPlain_toDigits (Decimal.shortest x).digits
  refine hsign ?_
  dsimp only
  split
  · decide
  split
  · split
    · exact (hdigits.append (isPlain_zeros _)).append (by decide)
    · exact (hdigits.take _).append (.cons (by decide) (hdigits.drop _))
  split
  · exact (IsPlain.append (by decide) (isPlain_zeros _)).append hdigits
  · have hfraction := hdigits.drop 1
    refine (((hdigits.take 1).append ?_).append (isPlain_exponentSign _)).append (isPlain_toDigits _)
    split
    · decide
    · exact .cons (by decide) hfraction

mutual

/-- **The text of a value holds no control.** -/
theorem isPlain_chars : ∀ v : Json, IsPlain (chars v)
  | null => by decide
  | bool true => by decide
  | bool false => by decide
  | number (.int i) => isPlain_intChars i
  | number (.float x) => isPlain_floatChars x
  | string s => isPlain_stringChars s
  | array items => .append (.cons (by decide) (isPlain_itemsChars items)) (by decide)
  | object members => .append (.cons (by decide) (isPlain_membersChars members)) (by decide)

theorem isPlain_itemsChars : ∀ items : List Json, IsPlain (itemsChars items)
  | [] => by decide
  | [item] => isPlain_chars item
  | item :: next :: rest => .append (isPlain_chars item) (.cons (by decide) (isPlain_itemsChars (next :: rest)))

theorem isPlain_membersChars : ∀ members : List (String × Json), IsPlain (membersChars members)
  | [] => by decide
  | [(name, value)] => .append (isPlain_stringChars name) (.cons (by decide) (isPlain_chars value))
  | (name, value) :: next :: rest =>
    .append (isPlain_stringChars name)
      (.cons (by decide) (.append (isPlain_chars value) (.cons (by decide) (isPlain_membersChars (next :: rest)))))

end

theorem encode_text (v : Json) : Utf8.encode v.text = bytes v := by
  rw [text, Utf8.encode, String.toList_ofList, bytes]

/-- **No line end stands inside a value.** -/
theorem lineEnd_notMem_text (v : Json) : lineEnd ∉ Utf8.encode v.text := by
  intro h
  have hmem : '\n' ∈ chars v := by
    rw [encode_text] at h
    exact (Utf8.mem_encodeChars_ascii (by decide)).1 h
  exact absurd (isPlain_chars v '\n' hmem) (by decide)

end ObjectRelay.Json
