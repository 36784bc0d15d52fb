import ObjectRelay.Json.Value
/-!
# Reading JSON numbers

A number is read digit by digit; the first byte that cannot belong to it ends it.
Integers stay integers as long as 64 bits hold them.  Otherwise the digits that fit
64 bits become a float that is multiplied or divided by a power of ten, and the
digits behind them only move that power.
-/
namespace ObjectRelay.Json

inductive NumberPhase where
  /-- Behind the minus sign: a digit must follow. -/
  | sign
  /-- Behind a leading zero: no digit may follow. -/
  | zero
  | integer
  /-- In digits of an integer that 64 bits no longer hold. -/
  | long
  /-- Behind the point: a digit must follow. -/
  | point
  /-- In the digits behind the point. -/
  | fraction
  /-- In digits behind the point that no longer count. -/
  | tail
  /-- Behind the exponent mark: a sign or a digit must follow. -/
  | mark
  /-- Behind the sign of the exponent: a digit must follow. -/
  | markSign
  /-- In the digits of the exponent. -/
  | power
  /-- In the digits of an exponent so great that it no longer counts. -/
  | farPower
deriving DecidableEq, Repr

/-- The reader of a number: `significand * 10 ^ scale`, and the exponent being read. -/
structure NumberReader where
  phase : NumberPhase
  negative : Bool := false
  significand : Nat := 0
  scale : Int := 0
  powerNegative : Bool := false
  power : Nat := 0
  /-- The value is passed over, so its size does not matter. -/
  ignored : Bool := false
deriving Repr

inductive NumberStep where
  | more (r : NumberReader)
  /-- It does not, and the number is complete before it. -/
  | ended
  /-- No number goes on like this. -/
  | broken

namespace NumberReader

def digit? (b : UInt8) : Option Nat :=
  if 0x30 ≤ b && b ≤ 0x39 then some (b.toNat - 0x30) else none

def isMark (b : UInt8) : Bool := b == 0x65 || b == 0x45

/-- Starts a number at its first byte, a minus sign or a digit. -/
def start? (ignored : Bool) (b : UInt8) : Option NumberReader :=
  if b == 0x2D then some { phase := .sign, negative := true, ignored }
  else match digit? b with
    | some 0 => some { phase := .zero, ignored }
    | some d => some { phase := .integer, significand := d, ignored }
    | none => none

def afterInteger (r : NumberReader) (b : UInt8) : NumberStep :=
  if b == 0x2E then .more { r with phase := .point }
  else if isMark b then .more { r with phase := .mark }
  else .ended

/-- What may follow complete digits behind the point. -/
def afterFraction (r : NumberReader) (b : UInt8) : NumberStep :=
  if isMark b then .more { r with phase := .mark } else .ended

/-- One more digit of the significand when 64 bits hold it. -/
def appendDigit? (r : NumberReader) (d : Nat) : Option Nat :=
  let n := 10 * r.significand + d
  if n < UInt64.size then some n else none

/-- One more digit of the exponent.  An exponent beyond 31 bits makes any number but
zero too great or vanishingly small. -/
def appendPower (r : NumberReader) (d : Nat) : NumberStep :=
  let n := 10 * r.power + d
  if n < 0x80000000 then .more { r with phase := .power, power := n }
  else if r.significand == 0 || r.powerNegative || r.ignored then
    .more { r with phase := .farPower }
  else .broken

def step (r : NumberReader) (b : UInt8) : NumberStep :=
  match r.phase, digit? b with
  | .sign, some 0 => .more { r with phase := .zero }
  | .sign, some d => .more { r with phase := .integer, significand := d }
  | .sign, none => .broken
  | .zero, some _ => .broken
  | .zero, none => r.afterInteger b
  | .integer, some d =>
    match r.appendDigit? d with
    | some n => .more { r with significand := n }
    | none => .more { r with phase := .long, scale := 1 }
  | .integer, none => r.afterInteger b
  | .long, some _ => .more { r with scale := r.scale + 1 }
  | .long, none => r.afterInteger b
  | .point, some d | .fraction, some d =>
    match r.appendDigit? d with
    | some n => .more { r with phase := .fraction, significand := n, scale := r.scale - 1 }
    | none => .more { r with phase := .tail }
  | .point, none => .broken
  | .fraction, none => r.afterFraction b
  | .tail, some _ => .more r
  | .tail, none => r.afterFraction b
  | .mark, some d | .markSign, some d => r.appendPower d
  | .mark, none =>
    if b == 0x2B then .more { r with phase := .markSign }
    else if b == 0x2D then .more { r with phase := .markSign, powerNegative := true }
    else .broken
  | .markSign, none => .broken
  | .power, some d => r.appendPower d
  | .power, none => .ended
  | .farPower, some _ => .more r
  | .farPower, none => .ended

/-- Whether the digits read so far are a number on their own. -/
def isComplete (r : NumberReader) : Bool :=
  match r.phase with
  | .sign | .point | .mark | .markSign => false
  | _ => true

/-- `x` multiplied or divided by `10 ^ scale`.  Below `10 ^ -308` the division is
done in steps of `10 ^ 308`, as many as `fuel`. -/
def scaleBy (x : Binary64) (scale : Int) : Nat → Option Binary64
  | 0 => some x
  | fuel + 1 =>
    match Binary64.powerOfTen? scale.natAbs with
    | some p => if 0 ≤ scale then x.mul? p else x.div? p
    | none =>
      if x.mantissa == 0 then some x
      else if 0 ≤ scale then none
      else
        match Binary64.powerOfTen? 308 with
        | none => none
        | some p => match x.div? p with
          | none => none
          | some y => scaleBy y (scale + 308) fuel

/-- The float that the reader stands for, `none` when it is too great. -/
def float? (r : NumberReader) : Option Binary64 :=
  if r.phase == .farPower then some (Binary64.zero r.negative)
  else
    let scale := if r.powerNegative then r.scale - r.power else r.scale + r.power
    match Binary64.ofNat? false r.significand with
    | none => none
    | some x => (scaleBy x scale 8).map fun y => { y with negative := r.negative }

/-- The number that was read, `none` when it is too great for a float. -/
def number? (r : NumberReader) : Option Json.Number :=
  match r.phase with
  | .zero | .integer =>
    if !r.negative then some (.int r.significand)
    else if r.significand == 0 || 0x8000000000000000 < r.significand then r.float?.map .float
    else some (.int (-(r.significand : Int)))
  | _ => r.float?.map .float

end NumberReader

end ObjectRelay.Json
