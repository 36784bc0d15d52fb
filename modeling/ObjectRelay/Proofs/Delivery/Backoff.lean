import Mathlib.Algebra.Order.Ring.Nat
import ObjectRelay.Delivery.Retry
/-!
# How long is waited

A wait is computed in words of two sizes: the factor saturates at 32 bits, the nanoseconds are multiplied in 64, and
seconds that do not fit 64 bits make the wait the longest one.  All of it comes to one formula in unbounded numbers
(`nanoseconds_backoff`), because a product of a duration exists exactly if some duration is that long
(`mul?_eq_some_iff`).
-/
namespace ObjectRelay
namespace Duration

variable {a b : UInt64} {d e : Duration} {f : UInt32}

/-! ## Words -/

theorem wordMul?_eq_some_iff {c : UInt64} : wordMul? a b = some c ↔ c.toNat = a.toNat * b.toNat := by
  unfold wordMul?
  split
  · rename_i h
    have hmul : (a * b).toNat = a.toNat * b.toNat := by
      rw [UInt64.toNat_mul]
      exact Nat.mod_eq_of_lt h
    rw [Option.some.injEq, ← UInt64.toNat_inj, hmul, eq_comm]
  · rename_i h
    exact ⟨nofun, fun hc => absurd (hc ▸ c.toNat_lt) h⟩

theorem wordAdd?_eq_some_iff {c : UInt64} : wordAdd? a b = some c ↔ c.toNat = a.toNat + b.toNat := by
  unfold wordAdd?
  split
  · rename_i h
    have hadd : (a + b).toNat = a.toNat + b.toNat := by
      rw [UInt64.toNat_add]
      exact Nat.mod_eq_of_lt h
    rw [Option.some.injEq, ← UInt64.toNat_inj, hadd, eq_comm]
  · rename_i h
    exact ⟨nofun, fun hc => absurd (hc ▸ c.toNat_lt) h⟩

/-- The nanoseconds of a duration can be multiplied without a check. -/
theorem toNat_nanos_mul (d : Duration) (f : UInt32) :
    (d.nanos.toUInt64 * f.toUInt64).toNat = d.nanos.toNat * f.toNat := by
  have hlt : d.nanos.toNat * f.toNat < 2 ^ 64 := calc
    d.nanos.toNat * f.toNat < 2 ^ 32 * 2 ^ 32 := Nat.mul_lt_mul'' d.nanos.toNat_lt f.toNat_lt
    _ = 2 ^ 64 := by rw [← Nat.pow_add]
  rw [UInt64.toNat_mul, UInt32.toNat_toUInt64, UInt32.toNat_toUInt64, Nat.mod_eq_of_lt hlt]

/-! ## Durations -/

theorem nanoseconds_inj (h : d.nanoseconds = e.nanoseconds) : d = e := by
  obtain ⟨s, n, hn⟩ := d
  obtain ⟨s', n', hn'⟩ := e
  simp only [nanoseconds] at h
  obtain rfl : s = s' := UInt64.toNat_inj.1 (by omega)
  obtain rfl : n = n' := UInt32.toNat_inj.1 (by omega)
  rfl

theorem nanoseconds_le_limit (d : Duration) : d.nanoseconds ≤ limit := by
  have hseconds := d.seconds.toNat_lt
  have hnanos := d.nanos_lt
  simp only [nanoseconds, limit, UInt64.size]
  omega

theorem exists_nanoseconds_eq {n : Nat} (h : n ≤ limit) : ∃ d : Duration, d.nanoseconds = n := by
  simp only [limit, UInt64.size] at h
  have hseconds : (UInt64.ofNat (n / 1000000000)).toNat = n / 1000000000 := UInt64.toNat_ofNat_of_lt' (by
    simp only [UInt64.size]
    omega)
  have hnanos : (UInt32.ofNat (n % 1000000000)).toNat = n % 1000000000 := UInt32.toNat_ofNat_of_lt' (by
    simp only [UInt32.size]
    omega)
  refine ⟨⟨.ofNat (n / 1000000000), .ofNat (n % 1000000000), by omega⟩, ?_⟩
  simp only [nanoseconds, hseconds, hnanos]
  omega

/-- The nanoseconds of a product: what is carried over counts as seconds. -/
theorem nanoseconds_mul (d : Duration) (f : UInt32) :
    d.nanoseconds * f.toNat =
      (d.seconds.toNat * f.toNat + d.nanos.toNat * f.toNat / 1000000000) * 1000000000 +
        d.nanos.toNat * f.toNat % 1000000000 := by
  rw [nanoseconds, Nat.add_mul, Nat.mul_right_comm]
  omega

/-- **A product of a duration is the duration that is so long**, if there is one. -/
theorem mul?_eq_some_iff : d.mul? f = some e ↔ e.nanoseconds = d.nanoseconds * f.toNat := by
  have hcarry : (d.nanos.toUInt64 * f.toUInt64 / 1000000000).toNat = d.nanos.toNat * f.toNat / 1000000000 := by
    rw [UInt64.toNat_div, toNat_nanos_mul]
    rfl
  have hsound : ∀ {e : Duration}, d.mul? f = some e → e.nanoseconds = d.nanoseconds * f.toNat := by
    intro e h
    obtain ⟨seconds, hmul, h⟩ := Option.bind_eq_some_iff.1 h
    obtain ⟨sum, hadd, rfl⟩ := Option.map_eq_some_iff.1 h
    rw [wordMul?_eq_some_iff, UInt32.toNat_toUInt64] at hmul
    rw [wordAdd?_eq_some_iff, hmul, hcarry] at hadd
    rw [nanoseconds_mul, nanoseconds, hadd, toNat_restOf, toNat_nanos_mul]
  refine ⟨hsound, fun h => ?_⟩
  -- a duration that is so long bounds the seconds of the product, so no word is too small
  have hseconds : e.seconds.toNat = d.seconds.toNat * f.toNat + d.nanos.toNat * f.toNat / 1000000000 := by
    have hnanos := e.nanos_lt
    rw [nanoseconds_mul, nanoseconds] at h
    omega
  have hlt := e.seconds.toNat_lt
  obtain ⟨product, hproduct⟩ : ∃ p : UInt64, p.toNat = d.seconds.toNat * f.toNat :=
    ⟨.ofNat _, UInt64.toNat_ofNat_of_lt' (by simp only [UInt64.size]; omega)⟩
  have hmul : wordMul? d.seconds f.toUInt64 = some product := by
    rw [wordMul?_eq_some_iff, UInt32.toNat_toUInt64, hproduct]
  have hadd : wordAdd? product (d.nanos.toUInt64 * f.toUInt64 / 1000000000) = some e.seconds := by
    rw [wordAdd?_eq_some_iff, hproduct, hcarry, hseconds]
  obtain ⟨found, hfound⟩ : ∃ found, d.mul? f = some found := by
    simp only [mul?, hmul, hadd, Option.bind_some, Option.map_some]
    exact ⟨_, rfl⟩
  rw [hfound, nanoseconds_inj ((hsound hfound).trans h.symm)]

theorem mul?_eq_none_iff : d.mul? f = none ↔ limit < d.nanoseconds * f.toNat := by
  rw [← Nat.not_le, Option.eq_none_iff_forall_ne_some]
  refine ⟨fun h hle => ?_, fun h e he => h (mul?_eq_some_iff.1 he ▸ e.nanoseconds_le_limit)⟩
  obtain ⟨e, he⟩ := exists_nanoseconds_eq hle
  exact h e (mul?_eq_some_iff.2 he)

theorem isAtMost_iff : d.isAtMost e = true ↔ d.nanoseconds ≤ e.nanoseconds := by
  have hd := d.nanos_lt
  have he := e.nanos_lt
  simp only [isAtMost, nanoseconds, Bool.or_eq_true, Bool.and_eq_true, decide_eq_true_eq, beq_iff_eq,
    UInt64.lt_iff_toNat_lt, UInt32.le_iff_toNat_le, ← UInt64.toNat_inj]
  omega

theorem nanoseconds_min (d e : Duration) : (d.min e).nanoseconds = Min.min d.nanoseconds e.nanoseconds := by
  unfold min
  split
  · rename_i h
    exact (Nat.min_eq_left (isAtMost_iff.1 h)).symm
  · rename_i h
    rw [isAtMost_iff, Nat.not_le] at h
    exact (Nat.min_eq_right (Nat.le_of_lt h)).symm

end Duration

namespace RetryPolicy

/-! ## The policy -/

theorem toNat_doublings (attempt : UInt32) : (doublings attempt).toNat = attempt.toNat - 1 := by
  unfold doublings
  split
  · rename_i h
    rw [h]
    rfl
  · rename_i h
    have hpos : attempt.toNat ≠ 0 := fun h0 => h (UInt32.toNat_inj.1 h0)
    exact UInt32.toNat_sub_of_le _ _ (UInt32.le_iff_toNat_le.2 (Nat.one_le_iff_ne_zero.2 hpos))

/-- The factor is a power of two, cut down to 32 bits. -/
theorem toNat_factor (attempt : UInt32) : (factor attempt).toNat = min (2 ^ (attempt.toNat - 1)) (2 ^ 32 - 1) := by
  unfold factor
  split
  · rename_i h
    rw [UInt32.lt_iff_toNat_lt, toNat_doublings] at h
    have hlt : attempt.toNat - 1 < 32 := h
    have hpow : 2 ^ (attempt.toNat - 1) < 2 ^ 32 := Nat.pow_lt_pow_right (by decide) hlt
    rw [UInt32.toNat_shiftLeft, toNat_doublings, Nat.mod_eq_of_lt hlt, UInt32.toNat_one, Nat.one_shiftLeft,
      Nat.mod_eq_of_lt hpow]
    omega
  · rename_i h
    rw [UInt32.lt_iff_toNat_lt, toNat_doublings, Nat.not_lt] at h
    have hpow : 2 ^ 32 ≤ 2 ^ (attempt.toNat - 1) := Nat.pow_le_pow_right (by decide) h
    have hgreatest : (0xFFFFFFFF : UInt32).toNat = 2 ^ 32 - 1 := by decide
    rw [hgreatest, Nat.min_eq_right (Nat.le_trans (Nat.sub_le _ _) hpow)]

variable (policy : RetryPolicy)

/-- **A wait in unbounded numbers**: the shortest one, times the factor, but no more than the longest one. -/
theorem nanoseconds_backoff (attempt : UInt32) : (policy.backoff attempt).nanoseconds =
    min policy.maxWait.nanoseconds (policy.minWait.nanoseconds * min (2 ^ (attempt.toNat - 1)) (2 ^ 32 - 1)) := by
  rw [backoff, Duration.nanoseconds_min, ← toNat_factor]
  cases h : policy.minWait.mul? (factor attempt) with
  | none =>
    have hlimit := Duration.mul?_eq_none_iff.1 h
    have hmax := policy.maxWait.nanoseconds_le_limit
    rw [Option.getD_none, Nat.min_self, Nat.min_eq_left (Nat.le_trans hmax (Nat.le_of_lt hlimit))]
  | some product => rw [Option.getD_some, Duration.mul?_eq_some_iff.1 h, Nat.min_comm]

/-- **The waits of a policy**, whatever its shortest and its longest wait.  The one product that is not checked, that of
the nanoseconds beside the seconds, fits its word; so a wait is that of unbounded numbers, with a factor that doubles up
to the greatest 32 bit number.  It is never longer than the longest wait and never shorter than both, it never falls
from one attempt to a later one, and up to attempt 32 the shortest wait has been doubled for every attempt before. -/
theorem backoff_doubles :
    (∀ attempt : UInt32,
      (policy.minWait.nanos.toUInt64 * (factor attempt).toUInt64).toNat =
        policy.minWait.nanos.toNat * (factor attempt).toNat ∧
      (policy.backoff attempt).nanoseconds = min policy.maxWait.nanoseconds
        (policy.minWait.nanoseconds * min (2 ^ (attempt.toNat - 1)) (2 ^ 32 - 1))) ∧
    (∀ attempt : UInt32, (policy.backoff attempt).nanoseconds ≤ policy.maxWait.nanoseconds ∧
      min policy.minWait.nanoseconds policy.maxWait.nanoseconds ≤ (policy.backoff attempt).nanoseconds) ∧
    (∀ earlier later : UInt32, earlier ≤ later →
      (policy.backoff earlier).nanoseconds ≤ (policy.backoff later).nanoseconds) ∧
    ∀ attempt : UInt32, 1 ≤ attempt → attempt ≤ 32 → (policy.backoff attempt).nanoseconds =
      min policy.maxWait.nanoseconds (policy.minWait.nanoseconds * 2 ^ (attempt.toNat - 1)) := by
  have hformula := policy.nanoseconds_backoff
  have hfactor : ∀ attempt : UInt32, 1 ≤ min (2 ^ (attempt.toNat - 1)) (2 ^ 32 - 1) := fun attempt =>
    Nat.le_min.2 ⟨Nat.one_le_two_pow, by decide⟩
  refine ⟨fun attempt => ⟨policy.minWait.toNat_nanos_mul _, hformula attempt⟩, fun attempt => ?_,
    fun earlier later hle => ?_, fun attempt _ hle => ?_⟩
  · rw [hformula]
    refine ⟨Nat.min_le_left _ _, Nat.le_min.2 ⟨Nat.min_le_right _ _, Nat.le_trans (Nat.min_le_left _ _) ?_⟩⟩
    exact Nat.le_mul_of_pos_right _ (hfactor attempt)
  · have hpow : 2 ^ (earlier.toNat - 1) ≤ 2 ^ (later.toNat - 1) :=
      Nat.pow_le_pow_right (by decide) (Nat.sub_le_sub_right (UInt32.le_iff_toNat_le.1 hle) 1)
    rw [hformula, hformula]
    exact min_le_min_left _ (Nat.mul_le_mul_left _ (min_le_min_right _ hpow))
  · have hlt : attempt.toNat - 1 < 32 := by
      have hnat : attempt.toNat ≤ 32 := UInt32.le_iff_toNat_le.1 hle
      omega
    have hpow : 2 ^ (attempt.toNat - 1) < 2 ^ 32 := Nat.pow_lt_pow_right (by decide) hlt
    rw [hformula, Nat.min_eq_left (Nat.le_sub_one_of_lt hpow)]

/-- A product that is no duration counts as the longest wait. -/
example : (({ minWait := .ofMillis 18446744073709551615 } : RetryPolicy).backoff 12).millis = 5000 := by decide

end RetryPolicy
end ObjectRelay
