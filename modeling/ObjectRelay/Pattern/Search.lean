import ObjectRelay.Pattern.Expr
/-!
# Finding what an expression matches

A set of places in a text is a number whose bit `i` stands for the place in front of
character `i`.  Working backwards, an expression takes the places where the rest can
succeed to the places where it can begin, so a search never follows a way that leads
nowhere, and costs no more than the text is long for every part of the expression.

What the groups match is found by walking forwards with that knowledge: of the ways
open at a place, the first one from which the rest can succeed is the one that wins.
-/
namespace ObjectRelay.Pattern

open Unicode (CharSet)

/-- An expression whose descriptions are sets of places in one text. -/
abbrev Local := Expr Nat Nat

def placesOfSet (set : CharSet) : List Char → Nat
  | [] => 0
  | c :: s => (if set.has c then 1 else 0) ||| (placesOfSet set s <<< 1)

/-- The places where a condition holds; `before` stands in front of the text. -/
def placesOfLook (look : Look) (before : Option Char) : List Char → Nat
  | [] => if look.holds before none then 1 else 0
  | c :: s =>
    (if look.holds before (some c) then 1 else 0) ||| (placesOfLook look (some c) s <<< 1)

/-- The expression with its descriptions settled for a text. -/
def Expr.at (e : Expr CharSet Look) (s : List Char) : Local :=
  e.map (placesOfSet · s) (placesOfLook · none s)

def allPlaces (n : Nat) : Nat := (1 <<< (n + 1)) - 1

def without (places p : Nat) : Nat := if places.testBit p then places ^^^ (1 <<< p) else places

/-- Adds what `f` makes of the places until nothing is new, at most `k` times. -/
def grow (f : Nat → Nat) : Nat → Nat → Nat
  | 0, places => places
  | k + 1, places =>
    let more := places ||| f places
    if more == places then places else grow f k more

def applyTimes (f : Nat → Nat) : Nat → Nat → Nat
  | 0, places => places
  | k + 1, places => applyTimes f k (f places)

/-- The places from which up to `k` repetitions lead to a target. -/
def upTo (f : Nat → Nat) (targets : Nat) : Nat → Nat
  | 0 => targets
  | k + 1 => targets ||| f (upTo f targets k)

namespace Local

/-- The places from which an expression leads to one of the targets, in a text of `n`
characters. -/
def before (n : Nat) : Local → Nat → Nat
  | .empty, targets => targets
  | .one places, targets => places &&& (targets >>> 1)
  | .look places, targets => places &&& targets
  | .seq a b, targets => before n a (before n b targets)
  | .alt a b, targets => before n a targets ||| before n b targets
  | .group _ e, targets => before n e targets
  | .times e least most _, targets =>
    let rest := match most with
      | none => grow (before n e) (n + 1) targets
      | some most => upTo (before n e) targets (most - least)
    applyTimes (before n e) least rest

end Local

/-! ## What the groups match -/

/-- Where groups begin and end, the latest first. -/
abbrev Marks := List (Nat × Nat × Nat)

/-- A way through a part of an expression: from a place, to one of the targets. -/
abbrev Walk := Nat → Nat → Marks → Nat × Marks

/-- One step for each set of targets. -/
def walkEach (step : Walk) : List Nat → Nat → Marks → Nat × Marks
  | [], p, marks => (p, marks)
  | targets :: rest, p, marks =>
    let (q, marks) := step targets p marks
    walkEach step rest q marks

/-- What `f` makes of some places, and what it makes of that, `k` sets, the last first. -/
def chain (f : Nat → Nat) : Nat → Nat → List Nat → List Nat
  | 0, _, done => done
  | k + 1, places, done => chain f k (f places) (places :: done)

def walkUpTo (f : Nat → Nat) (step : Walk) (greedy : Bool) (targets : Nat) :
    Nat → Nat → Marks → Nat × Marks
  | 0, p, marks => (p, marks)
  | k + 1, p, marks =>
    let next := upTo f targets k
    let goOn := if greedy then (f next).testBit p else !targets.testBit p
    if goOn then
      let (q, marks) := step next p marks
      walkUpTo f step greedy targets k q marks
    else (p, marks)

/-- Repetitions behind the first one, each of which takes a character; `reach` holds the
places from which repetitions lead to a target. -/
def walkOn (f : Nat → Nat) (step : Walk) (greedy : Bool) (targets reach : Nat) :
    Nat → Nat → Marks → Nat × Marks
  | 0, p, marks => (p, marks)
  | k + 1, p, marks =>
    let next := without reach p
    let goOn := if greedy then (f next).testBit p else !targets.testBit p
    if goOn then
      let (q, marks) := step next p marks
      walkOn f step greedy targets reach k q marks
    else (p, marks)

/-- One repetition or more.  The first one may take no character, and then it is the
only one. -/
def walkSome (f : Nat → Nat) (step : Walk) (greedy : Bool) (targets reach n p : Nat)
    (marks : Marks) : Nat × Marks :=
  let first := without reach p ||| (if targets.testBit p then 1 <<< p else 0)
  let (q, marks) := step first p marks
  if q == p then (q, marks) else walkOn f step greedy targets reach (n + 1) q marks

namespace Local

/-- Walks from a place to a target, when there is a way, and marks the groups. -/
def walk (n : Nat) : Local → Walk
  | .empty, _, p, marks => (p, marks)
  | .one _, _, p, marks => (p + 1, marks)
  | .look _, _, p, marks => (p, marks)
  | .seq a b, targets, p, marks =>
    let (q, marks) := walk n a (before n b targets) p marks
    walk n b targets q marks
  | .alt a b, targets, p, marks =>
    if (before n a targets).testBit p then walk n a targets p marks else walk n b targets p marks
  | .group index e, targets, p, marks =>
    let (q, marks) := walk n e targets p marks
    (q, (index, p, q) :: marks)
  | .times e least (some most) greedy, targets, p, marks =>
    let f := before n e
    let extra := most - least
    let (q, marks) := walkEach (walk n e) (chain f least (upTo f targets extra) []) p marks
    walkUpTo f (walk n e) greedy targets extra q marks
  | .times e least none greedy, targets, p, marks =>
    let f := before n e
    let reach := grow f (n + 1) targets
    let (q, marks) := walkEach (walk n e) (chain f (least - 1) (f reach) []) p marks
    let goOn := 0 < least || (if greedy then (f reach).testBit q else !targets.testBit q)
    if goOn then walkSome f (walk n e) greedy targets reach n q marks else (q, marks)

end Local

/-! ## Searching a text -/

/-- The least place of a set, looked for among `k` places from `i` on. -/
def leastPlace? (places : Nat) : Nat → Nat → Option Nat
  | 0, _ => none
  | k + 1, i => if places.testBit i then some i else leastPlace? places k (i + 1)

namespace Expr

/-- Whether the expression matches some part of a text. -/
def occursIn (e : Expr CharSet Look) (s : List Char) : Bool :=
  Local.before s.length (e.at s) (allPlaces s.length) != 0

/-- The marks of the leftmost match in a text, which itself is marked as group zero. -/
def find? (e : Expr CharSet Look) (s : List Char) : Option Marks :=
  let n := s.length
  let settled := e.at s
  (leastPlace? (Local.before n settled (allPlaces n)) (n + 1) 0).map fun p =>
    let (q, marks) := Local.walk n settled (allPlaces n) p []
    (0, p, q) :: marks

end Expr

end ObjectRelay.Pattern
