/-!
# Sets of characters as ranges

A set of code points is a list of closed ranges in increasing order.  Property
tables are written as text, one range after the other in hexadecimal
(`41-5A 61-7A AA`), because that is the form in which they are checked against
the standard.
-/
namespace ObjectRelay

/-- Closed ranges of code points; a table keeps them in increasing order and apart. -/
abbrev Ranges := List (Nat × Nat)

namespace Ranges

def has (r : Ranges) (n : Nat) : Bool := r.any fun (lo, hi) => lo ≤ n && n ≤ hi

/-- The value of a hexadecimal digit of either case. -/
def hexDigit? (c : Char) : Option Nat :=
  if '0' ≤ c && c ≤ '9' then some (c.toNat - '0'.toNat)
  else if 'A' ≤ c && c ≤ 'F' then some (c.toNat - 'A'.toNat + 10)
  else if 'a' ≤ c && c ≤ 'f' then some (c.toNat - 'a'.toNat + 10)
  else none

/-- What has been read of a table: the ranges so far (last first), the start of
the range being read when its `-` has been seen, and the number being read. -/
structure TableReader where
  done : Ranges
  low? : Option Nat
  number : Nat

def TableReader.step (t : TableReader) (c : Char) : TableReader :=
  match hexDigit? c with
  | some d => { t with number := 16 * t.number + d }
  | none =>
    if c == '-' then { t with low? := some t.number, number := 0 }
    else { done := (t.low?.getD t.number, t.number) :: t.done, low? := none, number := 0 }

/-- The ranges written in `lines`, a space between two of a line. -/
def ofLines (lines : List String) : Ranges :=
  let readLine (done : Ranges) (line : String) : Ranges :=
    let t := line.toList.foldl TableReader.step ⟨done, none, 0⟩
    (t.low?.getD t.number, t.number) :: t.done
  (lines.foldl readLine []).reverse

end Ranges

end ObjectRelay
