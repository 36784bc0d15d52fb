/-!
# Whole numbers written by hand

Decimal digits behind at most one plus sign.  Digits are looked at from the left, so
of a wrong character and a number that is too large the one further left counts.
-/
namespace ObjectRelay

inductive NumberFault where
  | empty
  | notDigit
  | tooLarge
deriving DecidableEq, Repr

def NumberFault.message : NumberFault → String
  | empty => "cannot parse integer from empty string"
  | notDigit => "invalid digit found in string"
  | tooLarge => "number too large to fit in target type"

namespace Unsigned

/-- Reads digits behind a number that has been read. -/
def readFrom (limit : Nat) : List Char → Nat → Except NumberFault Nat
  | [], n => .ok n
  | c :: s, n =>
    if !c.isDigit then .error .notDigit
    else
      let more := 10 * n + (c.toNat - '0'.toNat)
      if limit < more then .error .tooLarge else readFrom limit s more

def read (limit : Nat) : List Char → Except NumberFault Nat
  | [] => .error .empty
  | ['+'] => .error .notDigit
  | '+' :: digits => readFrom limit digits 0
  | digits => readFrom limit digits 0

end Unsigned

end ObjectRelay
