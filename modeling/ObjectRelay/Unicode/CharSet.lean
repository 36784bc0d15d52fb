import ObjectRelay.Unicode.CaseFolding
/-!
# Sets of characters

A set is kept as it is described: ranges, and what unions, differences, complements
and case make of them.  Whether a character belongs to it is read off the description.
-/
namespace ObjectRelay.Unicode

inductive CharSet where
  | ranges (r : Ranges)
  | compl (s : CharSet)
  | union (s t : CharSet)
  | inter (s t : CharSet)
  | minus (s t : CharSet)
  | differ (s t : CharSet)
  /-- The set and whatever differs from one of its members in case only. -/
  | folded (s : CharSet)
  /-- The same for the letters of ASCII. -/
  | foldedAscii (s : CharSet)

namespace CharSet

def none : CharSet := ranges []

def any : CharSet := compl none

def single (c : Char) : CharSet := ranges [(c.toNat, c.toNat)]

def unions : List CharSet → CharSet
  | [] => none
  | [s] => s
  | s :: rest => union s (unions rest)

/-- The ASCII letter that differs from an ASCII letter in case only. -/
def asciiPartner? (n : Nat) : Option Nat :=
  if 0x41 ≤ n && n ≤ 0x5A then some (n + 0x20)
  else if 0x61 ≤ n && n ≤ 0x7A then some (n - 0x20)
  else Option.none

def hasCode : CharSet → Nat → Bool
  | ranges r, n => r.has n
  | compl s, n => !s.hasCode n
  | union s t, n => s.hasCode n || t.hasCode n
  | inter s t, n => s.hasCode n && t.hasCode n
  | minus s t, n => s.hasCode n && !t.hasCode n
  | differ s t, n => s.hasCode n != t.hasCode n
  | folded s, n => s.hasCode n || (CaseFolding.partners n).any s.hasCode
  | foldedAscii s, n => s.hasCode n || (asciiPartner? n).any s.hasCode

def has (s : CharSet) (c : Char) : Bool := s.hasCode c.toNat

end CharSet

end ObjectRelay.Unicode
