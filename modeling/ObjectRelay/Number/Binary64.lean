/-!
# Binary floating point numbers

Finite numbers of the 64 bit binary format, as a sign and `mantissa * 2 ^ exponent`.
Every operation computes the exact result as a quotient of naturals and rounds it
once, to the nearest number and on a tie to the even mantissa.
-/
namespace ObjectRelay

/-- A finite number of the 64 bit binary format.  In canonical form the mantissa is
below `2 ^ 53` and the exponent at least `-1074`, and the mantissa is at least
`2 ^ 52` unless the exponent is `-1074`. -/
structure Binary64 where
  negative : Bool
  mantissa : Nat
  exponent : Int
deriving DecidableEq, Repr

namespace Binary64

def zero (negative : Bool) : Binary64 := ⟨negative, 0, -1074⟩

/-- `numerator / denominator` divided by `2 ^ e`, as a quotient of naturals. -/
def scaled (numerator denominator : Nat) (e : Int) : Nat × Nat :=
  if e ≤ 0 then (numerator <<< e.natAbs, denominator) else (numerator, denominator <<< e.natAbs)

/-- The natural number nearest to a quotient, the even one on a tie. -/
def nearest (numerator denominator : Nat) : Nat :=
  let q := numerator / denominator
  let twice := 2 * (numerator % denominator)
  if twice < denominator then q
  else if denominator < twice then q + 1
  else if q % 2 == 0 then q else q + 1

/-- The number nearest to `numerator / denominator`, `none` when that is infinity. -/
def round? (negative : Bool) (numerator denominator : Nat) : Option Binary64 :=
  if numerator == 0 then some (zero negative)
  else
    let guess : Int := (numerator.log2 : Int) - denominator.log2 - 52
    let (n, d) := scaled numerator denominator guess
    let exact := if n / d < 1 <<< 52 then guess - 1 else guess
    let e := max exact (-1074)
    let (n, d) := scaled numerator denominator e
    let m := nearest n d
    let (m, e) := if m == 1 <<< 53 then (1 <<< 52, e + 1) else (m, e)
    if 971 < e then none else some ⟨negative, m, e⟩

/-- The absolute value as a quotient of naturals. -/
def quotient (x : Binary64) : Nat × Nat :=
  if x.exponent ≤ 0 then (x.mantissa, 1 <<< x.exponent.natAbs)
  else (x.mantissa <<< x.exponent.natAbs, 1)

def ofNat? (negative : Bool) (n : Nat) : Option Binary64 := round? negative n 1

/-- The rounded product, `none` when it overflows. -/
def mul? (x y : Binary64) : Option Binary64 :=
  let (a, b) := x.quotient
  let (c, d) := y.quotient
  round? (x.negative != y.negative) (a * c) (b * d)

/-- The rounded quotient, `none` when it overflows or the divisor is zero. -/
def div? (x y : Binary64) : Option Binary64 :=
  let (a, b) := x.quotient
  let (c, d) := y.quotient
  if c == 0 then none else round? (x.negative != y.negative) (a * d) (b * c)

/-- The number nearest to `10 ^ k`, for `k` up to 308. -/
def powerOfTen? (k : Nat) : Option Binary64 := if k ≤ 308 then ofNat? false (Nat.pow 10 k) else none

end Binary64

end ObjectRelay
