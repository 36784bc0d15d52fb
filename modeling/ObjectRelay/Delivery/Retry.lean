/-!
# Waiting between attempts

The wait doubles with every failed attempt, from the shortest to the longest one of the
policy.  A duration is two words, its seconds and the nanoseconds beside them, and is
multiplied in these words; a product that does not fit counts as the longest wait.
-/
namespace ObjectRelay

structure Duration where
  seconds : UInt64
  /-- What is left beside the seconds, less than another one. -/
  nanos : UInt32
  nanos_lt : nanos.toNat < 1000000000
deriving DecidableEq

namespace Duration

def nanoseconds (d : Duration) : Nat := d.seconds.toNat * 1000000000 + d.nanos.toNat

/-- The greatest number of nanoseconds of a duration: `2 ^ 64 - 1` seconds and the
nanoseconds below one more. -/
def limit : Nat := UInt64.size * 1000000000 - 1

def ofMillis (n : UInt64) : Duration where
  seconds := n / 1000
  nanos := (n % 1000).toUInt32 * 1000000
  nanos_lt := by
    have hrest : n.toNat % 1000 % 2 ^ 32 = n.toNat % 1000 := Nat.mod_eq_of_lt (by omega)
    simp only [UInt32.toNat_mul, UInt64.toNat_toUInt32, UInt64.toNat_mod, UInt64.reduceToNat, UInt32.reduceToNat]
    rw [hrest, Nat.mod_eq_of_lt (by omega)]
    omega

/-- Whole milliseconds, rounded down. -/
def millis (d : Duration) : Nat := d.nanoseconds / 1000000

/-- The product of two words, `none` if it is no word. -/
def wordMul? (a b : UInt64) : Option UInt64 := if a.toNat * b.toNat < UInt64.size then some (a * b) else none

/-- The sum of two words, `none` if it is no word. -/
def wordAdd? (a b : UInt64) : Option UInt64 := if a.toNat + b.toNat < UInt64.size then some (a + b) else none

/-- The nanoseconds of a product beside its seconds, when `nanos` have come together. -/
def restOf (nanos : UInt64) : UInt32 := (nanos % 1000000000).toUInt32

theorem toNat_restOf (nanos : UInt64) : (restOf nanos).toNat = nanos.toNat % 1000000000 := by
  simp only [restOf, UInt64.toNat_toUInt32, UInt64.toNat_mod, UInt64.reduceToNat]
  exact Nat.mod_eq_of_lt (by omega)

/-- The product with a factor, `none` beyond the greatest duration.  The nanoseconds are
multiplied first, and what makes whole seconds is carried over. -/
def mul? (d : Duration) (factor : UInt32) : Option Duration :=
  let nanos := d.nanos.toUInt64 * factor.toUInt64
  (wordMul? d.seconds factor.toUInt64).bind fun seconds =>
    (wordAdd? seconds (nanos / 1000000000)).map fun seconds =>
      ⟨seconds, restOf nanos, by rw [toNat_restOf]; exact Nat.mod_lt _ (by decide)⟩

/-- Whether a duration is no longer than another one: seconds count first. -/
def isAtMost (a b : Duration) : Bool := a.seconds < b.seconds || (a.seconds == b.seconds && a.nanos ≤ b.nanos)

def min (a b : Duration) : Duration := if a.isAtMost b then a else b

end Duration

structure RetryPolicy where
  minWait : Duration := Duration.ofMillis 100
  maxWait : Duration := Duration.ofMillis 5000
  /-- Attempts in all, the first one included. -/
  maxAttempts : UInt32 := 4

namespace RetryPolicy

/-- How often the wait has doubled before attempt `attempt`, counted from 1. -/
def doublings (attempt : UInt32) : UInt32 := if attempt = 0 then 0 else attempt - 1

/-- The factor of the wait behind an attempt: a power of two as long as it fits 32 bits,
the greatest 32 bit number after that. -/
def factor (attempt : UInt32) : UInt32 :=
  if doublings attempt < 32 then 1 <<< doublings attempt else 0xFFFFFFFF

def backoff (policy : RetryPolicy) (attempt : UInt32) : Duration :=
  ((policy.minWait.mul? (factor attempt)).getD policy.maxWait).min policy.maxWait

end RetryPolicy

end ObjectRelay
