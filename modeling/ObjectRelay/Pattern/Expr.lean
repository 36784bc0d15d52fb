import ObjectRelay.Unicode.Property
/-!
# Pattern expressions

What a pattern says once it has been read: which characters, in which order, how
often.  Of two ways to match, the one that comes first in the expression wins; a
greedy repetition goes on as long as it can, one that is not stops as soon as it can.

`Spans` says which parts of a text an expression matches, whatever wins.
-/
namespace ObjectRelay.Pattern

open Unicode (CharSet)

inductive Words where
  | unicode
  | ascii
deriving DecidableEq, Repr

def asciiWord : Ranges := [(0x30, 0x39), (0x41, 0x5A), (0x5F, 0x5F), (0x61, 0x7A)]

def Words.chars : Words → CharSet
  | unicode => Unicode.word
  | ascii => .ranges asciiWord

/-- A condition on a place between two characters of a text. -/
inductive Look where
  | textStart
  | textEnd
  | lineStart
  | lineEnd
  /-- Like `lineStart` where a carriage return, a line feed and the two together end lines. -/
  | anyLineStart
  | anyLineEnd
  | wordEdge (words : Words)
  | noWordEdge (words : Words)
  | wordStart (words : Words)
  | wordEnd (words : Words)
  /-- No word goes on behind this place from before it. -/
  | wordStartHalf (words : Words)
  | wordEndHalf (words : Words)
deriving DecidableEq, Repr

/-- Whether the condition holds between two characters, or at an end of the text. -/
def Look.holds (look : Look) (before after : Option Char) : Bool :=
  let isWord (words : Words) (c : Option Char) : Bool := c.any words.chars.has
  match look with
  | textStart => before.isNone
  | textEnd => after.isNone
  | lineStart => before.isNone || before == some '\n'
  | lineEnd => after.isNone || after == some '\n'
  | anyLineStart =>
    before.isNone || before == some '\n' || (before == some '\r' && after != some '\n')
  | anyLineEnd =>
    after.isNone || after == some '\r' || (after == some '\n' && before != some '\r')
  | wordEdge w => isWord w before != isWord w after
  | noWordEdge w => isWord w before == isWord w after
  | wordStart w => !isWord w before && isWord w after
  | wordEnd w => isWord w before && !isWord w after
  | wordStartHalf w => !isWord w before
  | wordEndHalf w => !isWord w after

/-- An expression over descriptions of characters and of places. -/
inductive Expr (σ τ : Type) where
  | empty
  | one (chars : σ)
  /-- No character, at such a place. -/
  | look (places : τ)
  | seq (first second : Expr σ τ)
  | alt (first second : Expr σ τ)
  | times (e : Expr σ τ) (least : Nat) (most : Option Nat) (greedy : Bool)
  /-- Remembers what `e` matches. -/
  | group (index : Nat) (e : Expr σ τ)

namespace Expr

def map {σ σ' τ τ' : Type} (f : σ → σ') (g : τ → τ') : Expr σ τ → Expr σ' τ'
  | empty => empty
  | one s => one (f s)
  | look t => look (g t)
  | seq a b => seq (a.map f g) (b.map f g)
  | alt a b => alt (a.map f g) (b.map f g)
  | times e least most greedy => times (e.map f g) least most greedy
  | group i e => group i (e.map f g)

def ofList {σ τ : Type} : List (Expr σ τ) → Expr σ τ
  | [] => empty
  | [e] => e
  | e :: rest => seq e (ofList rest)

def charBefore (s : List Char) (i : Nat) : Option Char := if i = 0 then none else s[i - 1]?

/-- The expression matches the part of `s` from place `i` to place `j`. -/
inductive Spans (s : List Char) : Expr CharSet Look → Nat → Nat → Prop where
  | empty {i : Nat} : i ≤ s.length → Spans s .empty i i
  | one {set : CharSet} {c : Char} {i : Nat} :
      s[i]? = some c → set.has c = true → Spans s (.one set) i (i + 1)
  | look {l : Look} {i : Nat} :
      i ≤ s.length → l.holds (charBefore s i) s[i]? = true → Spans s (.look l) i i
  | seq {a b : Expr CharSet Look} {i j k : Nat} :
      Spans s a i j → Spans s b j k → Spans s (.seq a b) i k
  | first {a b : Expr CharSet Look} {i j : Nat} : Spans s a i j → Spans s (.alt a b) i j
  | second {a b : Expr CharSet Look} {i j : Nat} : Spans s b i j → Spans s (.alt a b) i j
  | stop {e : Expr CharSet Look} {most : Option Nat} {greedy : Bool} {i : Nat} :
      i ≤ s.length → Spans s (.times e 0 most greedy) i i
  | again {e : Expr CharSet Look} {least : Nat} {most : Option Nat} {greedy : Bool} {i j k : Nat} :
      most ≠ some 0 → Spans s e i j →
      Spans s (.times e (least - 1) (most.map (· - 1)) greedy) j k →
      Spans s (.times e least most greedy) i k
  | group {index : Nat} {e : Expr CharSet Look} {i j : Nat} :
      Spans s e i j → Spans s (.group index e) i j

end Expr

end ObjectRelay.Pattern
