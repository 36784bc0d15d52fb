import ObjectRelay.Number.Binary64
/-!
# The shortest decimal that reads back

A positive binary number is written with the fewest decimal digits whose nearest
binary number it is.  For a given count of digits only the two neighbours of the
number on that decimal grid can read back; of two, the nearer one is taken.
-/
namespace ObjectRelay

/-- A decimal `digits * 10 ^ exponent`. -/
structure Decimal where
  digits : Nat
  exponent : Int
deriving DecidableEq, Repr

namespace Decimal

def quotient (d : Decimal) : Nat × Nat :=
  if d.exponent ≤ 0 then (d.digits, Nat.pow 10 d.exponent.natAbs)
  else (d.digits * Nat.pow 10 d.exponent.natAbs, 1)

/-- Moves zeros at the end of the digits into the exponent. -/
def withoutZeros : Nat → Decimal → Decimal
  | 0, d => d
  | fuel + 1, d =>
    if d.digits != 0 && d.digits % 10 == 0 then withoutZeros fuel ⟨d.digits / 10, d.exponent + 1⟩
    else d

/-- The number of decimal digits of a natural number. -/
def digitCount (n : Nat) : Nat := (Nat.toDigits 10 n).length

/-- The power of ten of the first digit of `n / d`, for a quotient above zero. -/
def leadingExponent (n d : Nat) : Int :=
  if d ≤ n then digitCount (n / d) - 1
  else
    let s := digitCount (d / n) - 1
    if d ≤ n * Nat.pow 10 s then -(s : Int) else -(s : Int) - 1

/-- The decimal with `count` digits that reads back as `x`, if there is one: the
nearer of the two neighbours on the grid, the even one when both are as near. -/
def withCount? (x : Binary64) (count : Nat) : Option Decimal :=
  let (n, d) := x.quotient
  let e := leadingExponent n d - (count - 1 : Nat)
  let (num, den) := if e ≤ 0 then (n * Nat.pow 10 e.natAbs, d) else (n, d * Nat.pow 10 e.natAbs)
  let low := num / den
  let readsBack (digits : Nat) : Bool :=
    let (a, b) := quotient ⟨digits, e⟩
    Binary64.round? false a b == some { x with negative := false }
  let near := Binary64.nearest num den
  let far := if near == low then low + 1 else low
  if readsBack near then some ⟨near, e⟩ else if readsBack far then some ⟨far, e⟩ else none

/-- The shortest decimal that reads back as `x`, for `x` other than zero.  Seventeen
digits always read back. -/
def shortest (x : Binary64) : Decimal :=
  match (List.range 17).findSome? fun k => withCount? x (k + 1) with
  | some d => withoutZeros 17 d
  | none => ⟨x.mantissa, 0⟩

end Decimal

end ObjectRelay
