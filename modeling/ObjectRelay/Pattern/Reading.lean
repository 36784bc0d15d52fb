import ObjectRelay.Pattern.Expr
import ObjectRelay.Text.Blank
import ObjectRelay.Text.Cut
/-!
# Reading patterns: characters and escapes

A pattern is read from left to right under flags that it may change itself.  Without
the Unicode flag a pattern speaks of bytes, and what could match a part of a character
only is refused, because what is searched is text.
-/
namespace ObjectRelay.Pattern

open Unicode (CharSet)

structure Flags where
  /-- `i`: case does not count. -/
  caseless : Bool := false
  /-- `m`: line ends count for `^` and `$`. -/
  multiLine : Bool := false
  /-- `s`: a dot matches line ends. -/
  dotAll : Bool := false
  /-- `U`: repetitions are not greedy unless marked. -/
  swapGreed : Bool := false
  /-- `u`: classes are those of Unicode. -/
  unicode : Bool := true
  /-- `R`: carriage returns end lines too. -/
  anyLineEnd : Bool := false
  /-- `x`: blanks and comments do not count. -/
  spaced : Bool := false
deriving DecidableEq, Repr

structure Reading where
  rest : List Char
  flags : Flags := {}
  groups : Nat := 0
  names : List (List Char × Nat) := []

/-- Reads a part of a pattern, or finds that it is not a pattern. -/
abbrev Read := StateT Reading Option

/-! ## Blanks -/

/-- What is passed over in front of a character. -/
inductive Skipping where
  | nothing
  | blanks
  | comment

def skipBlanks : List Char → Bool → List Char
  | [], _ => []
  | c :: s, true => skipBlanks s (c != '\n')
  | c :: s, false =>
    if isBlank c then skipBlanks s false
    else if c == '#' then skipBlanks s true
    else c :: s

/-- The characters at the beginning that satisfy `p`, and the rest.  Blanks between
them, and behind the last one, do not count when the pattern is spaced. -/
def takeSpaced (spaced : Bool) (p : Char → Bool) : List Char → Skipping → List Char × List Char
  | [], _ => ([], [])
  | c :: s, .comment => takeSpaced spaced p s (if c == '\n' then .blanks else .comment)
  | c :: s, .blanks =>
    if isBlank c then takeSpaced spaced p s .blanks
    else if c == '#' then takeSpaced spaced p s .comment
    else if p c then
      let (taken, rest) := takeSpaced spaced p s .blanks
      (c :: taken, rest)
    else ([], c :: s)
  | c :: s, .nothing =>
    if p c then
      let (taken, rest) := takeSpaced spaced p s (if spaced then .blanks else .nothing)
      (c :: taken, rest)
    else ([], c :: s)

namespace Read

def peek : Read (Option Char) := do return (← get).rest.head?

def sees (s : List Char) : Read Bool := do return s.isPrefixOf (← get).rest

def skip : Read Unit := modify fun r => { r with rest := r.rest.drop 1 }

def spaces : Read Unit := modify fun r =>
  if r.flags.spaced then { r with rest := skipBlanks r.rest false } else r

def skipSpaced : Read Unit := do
  skip
  spaces

def takes (s : List Char) : Read Bool := do
  if ← sees s then
    modify fun r => { r with rest := r.rest.drop s.length }
    return true
  else return false

def takeWhile (p : Char → Bool) : Read (List Char) := do
  let r ← get
  let (taken, rest) := takeSpaced r.flags.spaced p r.rest .nothing
  set { r with rest }
  return taken

def require (condition : Bool) : Read Unit := if condition then return else failure

/-! ## Characters -/

/-- What one character or escape of a pattern stands for. -/
inductive Primitive where
  /-- A character; `isByte` when it is written as a byte. -/
  | literal (c : Char) (isByte : Bool)
  | set (s : CharSet)
  | look (l : Look)

def isMeta (c : Char) : Bool :=
  ['\\', '.', '+', '*', '?', '(', ')', '|', '[', ']', '{', '}', '^', '$', '#', '&', '-',
    '~'].contains c

/-- Characters that stand for themselves behind a backslash. -/
def isEscapable (c : Char) : Bool :=
  isMeta c || (c.toNat < 0x80 && !c.isAlphanum && c != '<' && c != '>')

/-- The character that a letter behind a backslash stands for. -/
def control? (c : Char) : Option Char :=
  match c with
  | 'a' => some '\x07'
  | 'f' => some '\x0c'
  | 't' => some '\t'
  | 'n' => some '\n'
  | 'r' => some '\r'
  | 'v' => some '\x0b'
  | _ => none

def hexValue (digits : List Char) : Nat :=
  digits.foldl (fun n c => 16 * n + (Ranges.hexDigit? c).getD 0) 0

def charOf (n : Nat) : Read Char := if n.isValidChar then return Char.ofNat n else failure

def isHexDigit (c : Char) : Bool := (Ranges.hexDigit? c).isSome

/-- The number of a character: `count` digits, or any number of them between braces. -/
def hexChar (count : Nat) : Read Primitive := do
  skipSpaced
  if (← peek) == some '{' then
    skipSpaced
    let digits ← takeWhile isHexDigit
    require (!digits.isEmpty && (← peek) == some '}')
    skipSpaced
    return .literal (← charOf (hexValue digits)) false
  else
    let before ← get
    let digits := (← takeWhile isHexDigit).take count
    require (digits.length == count)
    set before
    digitsOf count
    return .literal (← charOf (hexValue digits)) (count == 2)
where
  /-- Passes over `k` digits. -/
  digitsOf : Nat → Read Unit
    | 0 => return
    | k + 1 => do
      skipSpaced
      digitsOf k

/-- A set from a class of characters, turned round if `negated`; without the Unicode
flag there are no such sets. -/
def unicodeSet (s : CharSet) (negated : Bool) : Read CharSet := do
  let flags := (← get).flags
  require flags.unicode
  let s := if flags.caseless then .folded s else s
  return if negated then .compl s else s

def property (negated : Bool) : Read CharSet := do
  skipSpaced
  match ← peek with
  | none | some '\\' => failure
  | some '{' =>
    skipSpaced
    let name ← takeWhile (· != '}')
    require ((← peek) == some '}')
    skip
    let valued (property value : List Char) (negated : Bool) : Read CharSet :=
      match Unicode.valued? property value with
      | some s => unicodeSet s negated
      | none => failure
    match cutAt ['!', '='] name, cutAt [':'] name, cutAt ['='] name with
    | some (property, value), _, _ => valued property value (!negated)
    | none, some (property, value), _ => valued property value negated
    | none, none, some (property, value) => valued property value negated
    | none, none, none =>
      match Unicode.named? name with
      | some s => unicodeSet s negated
      | none => failure
  | some c =>
    skipSpaced
    match Unicode.named? [c] with
    | some s => unicodeSet s negated
    | none => failure

/-- The set that `d`, `s` or `w` behind a backslash names, turned round for capitals. -/
def perlSet (c : Char) : Read CharSet := do
  skip
  let flags := (← get).flags
  let isNegated := c.isUpper
  let set ← match c.toLower, flags.unicode with
    | 'd', true => pure (CharSet.ranges Unicode.Category.decimalNumber)
    | 's', true => pure (.ranges Unicode.whiteSpace)
    | _, true => pure Unicode.word
    | 'd', false => pure (.ranges [(0x30, 0x39)])
    | 's', false => pure (.ranges [(0x9, 0xD), (0x20, 0x20)])
    | _, false => pure (.ranges asciiWord)
  require (flags.unicode || !isNegated)
  return if isNegated then .compl set else set

def words : Read Words := do return if (← get).flags.unicode then .unicode else .ascii

/-- The edge of a word behind `\b`, which may be followed by which edge it is. -/
def wordEdge : Read Look := do
  let words ← words
  let before ← get
  if (← peek) == some '{' then
    skipSpaced
    let isName (c : Char) : Bool := c.isAlpha || c == '-'
    match ← peek with
    | none => failure
    | some c =>
      if !isName c then
        set before
        return .wordEdge words
      else
        let name ← takeWhile isName
        require ((← peek) == some '}')
        skip
        match String.ofList name with
        | "start" => return .wordStart words
        | "end" => return .wordEnd words
        | "start-half" => return .wordStartHalf words
        | "end-half" => return .wordEndHalf words
        | _ => failure
  else return .wordEdge words

def escape : Read Primitive := do
  skip
  match ← peek with
  | none => failure
  | some c =>
    match c with
    | 'x' => hexChar 2
    | 'u' => hexChar 4
    | 'U' => hexChar 8
    | 'p' => return .set (← property false)
    | 'P' => return .set (← property true)
    | 'd' | 's' | 'w' | 'D' | 'S' | 'W' => return .set (← perlSet c)
    | _ =>
      skip
      if isEscapable c then return .literal c false
      match control? c with
      | some d => return .literal d false
      | none =>
        match c with
        | 'A' => return .look .textStart
        | 'z' => return .look .textEnd
        | 'b' => return .look (← wordEdge)
        | 'B' => return .look (.noWordEdge (← words))
        | '<' => return .look (.wordStart (← words))
        | '>' => return .look (.wordEnd (← words))
        | _ => failure

end Read

end ObjectRelay.Pattern
