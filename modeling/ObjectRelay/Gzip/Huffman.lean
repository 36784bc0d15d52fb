/-!
# Huffman codes

A code is a binary tree that is walked bit by bit.  It is given by the lengths of
the code words: words of one length are consecutive numbers in the order of their
symbols, and shorter words come before longer ones.
-/
namespace ObjectRelay.Gzip

/-- A prefix code: a symbol, a choice on the next bit, or no symbol at all. -/
inductive Code where
  | none
  | symbol (value : Nat)
  | choice (zero one : Code)
deriving Repr

namespace Code

/-- Enters `value` under the word of `length` bits with the number `word`. -/
def insert (value : Nat) (word : Nat) : Nat → Code → Code
  | 0, _ => symbol value
  | length + 1, code =>
    let (zero, one) := match code with
      | choice zero one => (zero, one)
      | _ => (none, none)
    if word.testBit length then choice zero (insert value word length one)
    else choice (insert value word length zero) one

def maxLength : Nat := 15

/-- The lengths with their symbols, those of length `n` only. -/
def withLength (lengths : List Nat) (n : Nat) : List Nat :=
  (lengths.zipIdx.filter fun (l, _) => l == n).map (·.2)

/-- Enters the words of one length, `next` being the first of them. -/
def insertAll (length : Nat) : List Nat → Nat → Code → Code
  | [], _, code => code
  | s :: rest, next, code => insertAll length rest (next + 1) (insert s next length code)

/-- Enters the words of the lengths from `length` on, `next` being the first word. -/
def insertFrom (lengths : List Nat) : Nat → Nat → Nat → Code → Code
  | 0, _, _, code => code
  | fuel + 1, length, next, code =>
    let symbols := withLength lengths length
    insertFrom lengths fuel (length + 1) (2 * (next + symbols.length))
      (insertAll length symbols next code)

/-- The share of all words of the greatest length that the code words cover. -/
def covered (lengths : List Nat) : Nat :=
  lengths.foldl (fun sum l => if l == 0 then sum else sum + 1 <<< (maxLength - l)) 0

/-- The code with these word lengths, a length of zero for a symbol that does not
occur.  The words must cover everything, unless there is at most one. -/
def ofLengths? (lengths : List Nat) : Option Code :=
  let used := (lengths.filter (· != 0)).length
  if covered lengths == 1 <<< maxLength || used ≤ 1 then
    some (insertFrom lengths maxLength 1 0 none)
  else Option.none

end Code

end ObjectRelay.Gzip
