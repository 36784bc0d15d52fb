import ObjectRelay.Pattern.Reading
/-!
# Reading patterns: classes

A class between brackets lists characters, ranges and other classes.  Classes may be
cut with one another (`&&`), taken away (`--`) or compared (`~~`), from left to right.
When case does not count, a class is closed under case before it is turned round.
-/
namespace ObjectRelay.Pattern

open Unicode (CharSet)

namespace Read

/-- The characters of a class that has a name between colons. -/
def asciiClass? (name : List Char) : Option Ranges :=
  match String.ofList name with
  | "alnum" => some [(0x30, 0x39), (0x41, 0x5A), (0x61, 0x7A)]
  | "alpha" => some [(0x41, 0x5A), (0x61, 0x7A)]
  | "ascii" => some [(0x0, 0x7F)]
  | "blank" => some [(0x9, 0x9), (0x20, 0x20)]
  | "cntrl" => some [(0x0, 0x1F), (0x7F, 0x7F)]
  | "digit" => some [(0x30, 0x39)]
  | "graph" => some [(0x21, 0x7E)]
  | "lower" => some [(0x61, 0x7A)]
  | "print" => some [(0x20, 0x7E)]
  | "punct" => some [(0x21, 0x2F), (0x3A, 0x40), (0x5B, 0x60), (0x7B, 0x7E)]
  | "space" => some [(0x9, 0xD), (0x20, 0x20)]
  | "upper" => some [(0x41, 0x5A)]
  | "word" => some asciiWord
  | "xdigit" => some [(0x30, 0x39), (0x41, 0x46), (0x61, 0x66)]
  | _ => none

/-- The set closed under case where case does not count. -/
def closed (s : CharSet) : Read CharSet := do
  let flags := (← get).flags
  return if !flags.caseless then s else if flags.unicode then .folded s else .foldedAscii s

/-- The set closed under case and turned round if `negated`; without the Unicode flag
that would match bytes that are no character. -/
def closedUnless (negated : Bool) (s : CharSet) : Read CharSet := do
  let s ← closed s
  if negated then
    require (← get).flags.unicode
    return .compl s
  else return s

/-- A class with a name, such as `[:alpha:]`, if one comes next. -/
def namedClass? : Read (Option CharSet) := do
  let before ← get
  if !(← takes ['[', ':']) then return none
  let isNegated ← takes ['^']
  let name := (← get).rest.takeWhile (· != ':')
  modify fun r => { r with rest := r.rest.drop name.length }
  match ← takes [':', ']'], asciiClass? name with
  | true, some r => return some (← closedUnless isNegated (.ranges r))
  | _, _ =>
    set before
    return none

/-- One end of a range, or an item of its own. -/
def classPrimitive : Read Primitive := do
  match ← peek with
  | none => failure
  | some '\\' => escape
  | some c =>
    skip
    return .literal c false

/-- A character of a class; without the Unicode flag it must be ASCII. -/
def classChar (p : Primitive) : Read Char := do
  match p with
  | .literal c _ =>
    require ((← get).flags.unicode || c.toNat < 0x80)
    return c
  | _ => failure

/-- Whether a range goes on behind the dash that comes next. -/
def isRange : Read Bool := do
  let r ← get
  match r.rest with
  | '-' :: s =>
    let s :=
      if r.flags.spaced then
        let s := s.dropWhile isBlank
        if s.head? == some '#' then (s.drop 1).dropWhile isBlank else s
      else s
    return s.head? != some ']' && s.head? != some '-'
  | _ => return false

/-- A character, a range, or a class that an escape names. -/
def classItem : Read CharSet := do
  let low ← classPrimitive
  spaces
  require (← peek).isSome
  if ← isRange then
    skipSpaced
    let high ← classPrimitive
    let low ← classChar low
    let high ← classChar high
    require (low.toNat ≤ high.toNat)
    return .ranges [(low.toNat, high.toNat)]
  else
    match low with
    | .set s => return s
    | low => return .single (← classChar low)

inductive ClassOp where
  | inter
  | minus
  | differ

/-- The class made of what stands in front of an operator and what stands behind it. -/
def combine (front : Option (ClassOp × CharSet)) (items : List CharSet) : Read CharSet := do
  let items := CharSet.unions items.reverse
  match front with
  | none => return items
  | some (op, s) =>
    let s ← closed s
    let t ← closed items
    return match op with
      | .inter => .inter s t
      | .minus => .minus s t
      | .differ => .differ s t

mutual

def bracketed : Nat → Read CharSet
  | 0 => failure
  | n + 1 => do
    skipSpaced
    let isNegated := (← peek) == some '^'
    if isNegated then skipSpaced
    let dashes ← takeWhile (· == '-')
    let mut items : List CharSet := if dashes.isEmpty then [] else [.single '-']
    if dashes.isEmpty && (← peek) == some ']' then
      skipSpaced
      items := [.single ']']
    let s ← classItems n none items
    closedUnless isNegated s

/-- Reads the items of a class up to its closing bracket; items read are last first. -/
def classItems : Nat → Option (ClassOp × CharSet) → List CharSet → Read CharSet
  | 0, _, _ => failure
  | n + 1, front, items => do
    spaces
    match (← get).rest with
    | [] => failure
    | '[' :: _ =>
      match ← namedClass? with
      | some s => classItems n front (s :: items)
      | none =>
        let s ← bracketed n
        classItems n front (s :: items)
    | ']' :: _ =>
      skip
      combine front items
    | '&' :: '&' :: _ => operator n .inter front items
    | '-' :: '-' :: _ => operator n .minus front items
    | '~' :: '~' :: _ => operator n .differ front items
    | _ =>
      let s ← classItem
      classItems n front (s :: items)

/-- Goes on behind an operator of two characters. -/
def operator : Nat → ClassOp → Option (ClassOp × CharSet) → List CharSet → Read CharSet
  | 0, _, _, _ => failure
  | n + 1, op, front, items => do
    let s ← combine front items
    skip
    skip
    classItems n (some (op, s)) []

end

end Read

end ObjectRelay.Pattern
