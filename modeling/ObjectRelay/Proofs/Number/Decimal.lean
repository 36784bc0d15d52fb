import ObjectRelay.Number.Unsigned
/-!
# Numbers in decimal digits

What is written for a number is digits (`Unsigned.isDigit_of_mem`), and the number is read from them again
(`Unsigned.read_toDigits`); so no two numbers are written alike (`toString_inj`).
-/
namespace ObjectRelay

namespace Unsigned

theorem readFrom_le {limit m : Nat} : ∀ {s : List Char} {n : Nat}, n ≤ limit → readFrom limit s n = .ok m → m ≤ limit
  | [], n, hn, h => by
    cases h
    exact hn
  | c :: s, n, _, h => by
    rw [readFrom] at h
    split at h
    · cases h
    · dsimp only at h
      split at h
      · cases h
      · rename_i hle
        exact readFrom_le (Nat.le_of_not_lt hle) h

theorem read_le {limit m : Nat} {s : List Char} (h : read limit s = .ok m) : m ≤ limit := by
  unfold read at h
  split at h
  · cases h
  · cases h
  · exact readFrom_le (Nat.zero_le _) h
  · exact readFrom_le (Nat.zero_le _) h

theorem digitChar_spec : ∀ d < 10, (Nat.digitChar d).isDigit = true ∧ (Nat.digitChar d).toNat - '0'.toNat = d := by
  decide

theorem readFrom_digitChar {limit n d : Nat} (hd : d < 10) (h : 10 * n + d ≤ limit) (rest : List Char) :
    readFrom limit (Nat.digitChar d :: rest) n = readFrom limit rest (10 * n + d) := by
  obtain ⟨hdigit, hvalue⟩ := digitChar_spec d hd
  rw [readFrom, hdigit, hvalue, Bool.not_true, if_neg Bool.false_ne_true]
  exact if_neg (Nat.not_lt.2 h)

theorem readFrom_toDigits {limit : Nat} (n : Nat) (h : n ≤ limit) (rest : List Char) :
    readFrom limit (Nat.toDigits 10 n ++ rest) 0 = readFrom limit rest n := by
  by_cases hn : n < 10
  · rw [Nat.toDigits_of_lt_base hn, List.singleton_append, readFrom_digitChar hn (by omega), Nat.mul_zero, Nat.zero_add]
  · have hlt : n / 10 < n := Nat.div_lt_self (by omega) (by omega)
    have hsum : 10 * (n / 10) + n % 10 = n := Nat.div_add_mod n 10
    rw [Nat.toDigits_of_base_le (by omega) (Nat.le_of_not_lt hn), List.append_assoc,
      readFrom_toDigits (n / 10) (Nat.le_trans (Nat.le_of_lt hlt) h), List.singleton_append,
      readFrom_digitChar (Nat.mod_lt _ (by omega)) (by omega), hsum]
termination_by n

theorem isDigit_of_mem {n : Nat} {c : Char} (h : c ∈ Nat.toDigits 10 n) : c.isDigit = true :=
  Nat.isDigit_of_mem_toDigits (by omega) (by omega) h

/-- **A number is read from its digits.** -/
theorem read_toDigits {limit n : Nat} (h : n ≤ limit) : read limit (Nat.toDigits 10 n) = .ok n := by
  have hread := readFrom_toDigits n h []
  rw [List.append_nil] at hread
  unfold read
  split
  · rename_i hnil
    exact absurd hnil Nat.toDigits_ne_nil
  · rename_i hplus
    exact absurd (isDigit_of_mem (hplus ▸ List.mem_cons_self)) (by decide)
  · rename_i hplus
    exact absurd (isDigit_of_mem (hplus ▸ List.mem_cons_self)) (by decide)
  · exact hread

end Unsigned

theorem toList_toString (n : Nat) : (toString n).toList = Nat.toDigits 10 n := by
  rw [Nat.toString_eq_repr, Nat.toList_repr]

theorem toString_inj {m n : Nat} : toString m = toString n ↔ m = n := by
  refine ⟨fun h => ?_, congrArg toString⟩
  have hdigits : Nat.toDigits 10 m = Nat.toDigits 10 n := by rw [← toList_toString, ← toList_toString, h]
  have hm := Unsigned.read_toDigits (Nat.le_max_left m n)
  have hn := Unsigned.read_toDigits (Nat.le_max_right m n)
  rw [hdigits, hn] at hm
  cases hm
  rfl

end ObjectRelay
