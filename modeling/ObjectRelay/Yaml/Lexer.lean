import ObjectRelay.Text.Percent
import ObjectRelay.Yaml.Scalar
/-!
# Cutting a YAML document into tokens

Only the colon shows that what stood before it was a key, so a place where a key may
have begun is remembered, and the token that announces the key is put in there when
the colon comes.  A key that is not marked must end on its line, and soon.

The margin is the column that text inside the innermost block must reach: one behind
the column of the block, zero outside all blocks.
-/
namespace ObjectRelay.Yaml

/-! ## Directives and tags -/

/-- The number at the beginning of a text, of at most nine digits. -/
def readNumber? (s : List Char) : Option (Nat × List Char) :=
  let digits := s.takeWhile Char.isDigit
  if digits.isEmpty || 9 < digits.length then none
  else some (digits.foldl (fun n c => 10 * n + (c.toNat - 48)) 0, s.drop digits.length)

def readVersion? (s : List Char) : Option (Token × List Char) := do
  let (major, s) ← readNumber? s
  match s with
  | '.' :: s =>
    let (minor, s) ← readNumber? s
    return (.version major minor, s)
  | _ => none

/-- Reads `!`, a name, and another `!` if there is one. -/
def readTagHandle? : List Char → Option (List Char × List Char)
  | '!' :: s =>
    let name := s.takeWhile isNameChar
    match s.drop name.length with
    | '!' :: s => some ('!' :: name ++ ['!'], s)
    | s => some ('!' :: name, s)
  | _ => none

def escapesAreWhole : List Char → Bool
  | '%' :: a :: b :: s =>
    (Ranges.hexDigit? a).isSome && (Ranges.hexDigit? b).isSome && escapesAreWhole s
  | '%' :: _ => false
  | _ :: s => escapesAreWhole s
  | [] => true

/-- Reads the characters of a tag and puts escaped bytes back; a tag that is written as
a whole may hold more characters than one that is abbreviated. -/
def readTagText? (isWhole : Bool) (s : List Char) : Option (List Char × List Char) := do
  let belongs (c : Char) : Bool := isNameChar c || ";/?:@&=+$.!~*'()%".toList.contains c ||
    (isWhole && ",[]".toList.contains c)
  let written := s.takeWhile belongs
  let text ← Utf8.decodeChars? (Percent.decode (Utf8.encodeChars written))
  if escapesAreWhole written then some (text, s.drop written.length) else none

/-- Reads a handle and the beginning of the tags that it abbreviates. -/
def readHandle? (s : List Char) : Option (Token × List Char) := do
  let (name, s) ← readTagHandle? s
  if name.getLast? != some '!' || !s.head?.any isGap then none
  else
    let (start, s) ← readTagText? true (s.dropWhile isGap)
    if start.isEmpty || !atWordEnd s then none else some (.handle name start, s)

/-- Reads a tag: whole between angle brackets, or abbreviated by a handle. -/
def readTag? : List Char → Option (Token × List Char)
  | '!' :: '<' :: s => do
    let (text, s) ← readTagText? true s
    match s with
    | '>' :: s => if text.isEmpty then none else some (.tag [] text, s)
    | _ => none
  | s => do
    let (handle, s) ← readTagHandle? s
    let (text, s) ← readTagText? false s
    if 1 < handle.length && handle.getLast? == some '!' then
      if text.isEmpty then none else some (.tag handle text, s)
    else
      match handle.drop 1 ++ text with
      | [] => some (.tag [] ['!'], s)
      | text => some (.tag ['!'] text, s)

/-! ## The lexer -/

/-- A place where a key may have begun. -/
structure KeyStart where
  place : Place
  /-- How many tokens stand before it. -/
  index : Nat
  /-- Whether nothing but a key may stand there. -/
  required : Bool

/-- Characters after which a key that is not marked must have ended. -/
def KeyStart.reach : Nat := 1024

/-- Whether a key that began here can no longer end at `p`. -/
def KeyStart.isPast (k : KeyStart) (p : Place) : Bool :=
  k.place.line < p.line || k.place.index + KeyStart.reach < p.index

/-- A lexer: what is left of the text, and what it has found. -/
structure Lexer where
  rest : List Char
  place : Place := {}
  /-- The tokens found, last first. -/
  tokens : List Token := []
  margin : Nat := 0
  /-- The margins of the blocks around the innermost one. -/
  outerMargins : List Nat := []
  key : Option KeyStart := none
  /-- Where keys may have begun outside the flow sequences and mappings around this place. -/
  outerKeys : List (Option KeyStart) := []
  /-- Whether a key that is not marked may begin here. -/
  keyAllowed : Bool := true

namespace Lexer

/-- Whether this is inside a flow sequence or mapping, where columns do not matter. -/
def inFlow (l : Lexer) : Bool := !l.outerKeys.isEmpty

def emit (l : Lexer) (t : Token) : Lexer := { l with tokens := t :: l.tokens }

def emitAt (l : Lexer) (index : Nat) (t : Token) : Lexer :=
  { l with tokens := l.tokens.insertIdx (l.tokens.length - index) t }

def skip (l : Lexer) (n : Nat) : Lexer :=
  { l with rest := l.rest.drop n, place := l.place.behind (l.rest.take n) }

/-! ## Keys and blocks -/

/-- Gives up the place where a key may have begun, `none` if a key must be there. -/
def dropKey? (l : Lexer) : Option Lexer :=
  match l.key with
  | none => some l
  | some k => if k.required then none else some { l with key := none }

def saveKey? (l : Lexer) : Option Lexer :=
  if l.keyAllowed then do
    let l ← l.dropKey?
    let required := !l.inFlow && l.margin == l.place.column + 1
    return { l with key := some ⟨l.place, l.tokens.length, required⟩ }
  else some l

/-- Gives up all places from which a key can no longer reach here. -/
def expireKeys? (l : Lexer) : Option Lexer := do
  let expire (key : Option KeyStart) : Option (Option KeyStart) :=
    match key with
    | none => some none
    | some k => if !k.isPast l.place then some (some k) else if k.required then none else some none
  let key ← expire l.key
  let outerKeys ← l.outerKeys.mapM expire
  return { l with key, outerKeys }

/-- Begins a block at a column behind the margin; its first token goes in front of what
stands behind the first `index` tokens. -/
def openBlock (l : Lexer) (column index : Nat) (t : Token) : Lexer :=
  if l.inFlow || column < l.margin then l
  else
    { l.emitAt index t with margin := column + 1, outerMargins := l.margin :: l.outerMargins }

def closeBlocksFrom (target : Nat) : Nat → List Nat → List Token → Nat × List Nat × List Token
  | margin, [], tokens => (margin, [], tokens)
  | margin, outer :: margins, tokens =>
    if target < margin then closeBlocksFrom target outer margins (.blockEnd :: tokens)
    else (margin, outer :: margins, tokens)

/-- Ends the blocks whose margin is behind `target`. -/
def closeBlocks (l : Lexer) (target : Nat) : Lexer :=
  if l.inFlow then l
  else
    let (margin, outerMargins, tokens) := closeBlocksFrom target l.margin l.outerMargins l.tokens
    { l with margin, outerMargins, tokens }

/-! ## Between tokens -/

/-- Passes over blanks, comments and line ends.  In a block a line end makes a key
possible, and then a tab is not a blank. -/
def skipBlanks (inFlow : Bool) : List Char → Place → Bool → Bool → List Char × Place × Bool
  | [], p, keyAllowed, _ => ([], p, keyAllowed)
  | c :: s, p, keyAllowed, inComment =>
    if isBreak c then skipBlanks inFlow s (p.next c) (keyAllowed || !inFlow) false
    else if inComment || c == ' ' || (c == '\t' && (inFlow || !keyAllowed)) ||
        (c == '\ufeff' && p.column == 0) then
      skipBlanks inFlow s (p.next c) keyAllowed inComment
    else if c == '#' then skipBlanks inFlow s (p.next c) keyAllowed true
    else (c :: s, p, keyAllowed)

/-- Goes to the next token. -/
def settle? (l : Lexer) : Option Lexer := do
  let (rest, place, keyAllowed) := skipBlanks l.inFlow l.rest l.place l.keyAllowed false
  let l ← { l with rest, place, keyAllowed }.expireKeys?
  return l.closeBlocks (l.place.column + 1)

/-! ## Tokens -/

/-- A directive, which fills a line; `%` has been seen. -/
def directive? (l : Lexer) : Option Lexer := do
  let l ← (l.closeBlocks 0).dropKey?
  let s := l.rest.drop 1
  let name := s.takeWhile isNameChar
  let s := s.drop name.length
  let (token, s) ←
    if !atWordEnd s then none
    else if name == "YAML".toList then readVersion? (s.dropWhile isGap)
    else if name == "TAG".toList then readHandle? (s.dropWhile isGap)
    else none
  let (rest, place) ← skipLineEnd? false s (l.place.behind (l.rest.take (l.rest.length - s.length)))
  return { l.emit token with rest, place, keyAllowed := false }

def named? (l : Lexer) (token : List Char → Token) : Option Lexer := do
  let l ← l.saveKey?
  let s := l.rest.drop 1
  let name := s.takeWhile isNameChar
  let s := s.drop name.length
  let ends := atWordEnd s || (s.head?.any fun c => ['?', ':', ',', ']', '}', '%', '@', '\x60'].contains c)
  if name.isEmpty || !ends then none
  else some { (l.skip (name.length + 1)).emit (token name) with keyAllowed := false }

def tag? (l : Lexer) : Option Lexer := do
  let l ← l.saveKey?
  let (token, s) ← readTag? l.rest
  if atWordEnd s || (l.inFlow && s.head? == some ',') then
    some { (l.skip (l.rest.length - s.length)).emit token with keyAllowed := false }
  else none

def take (l : Lexer) (style : Style) (scanned : Scanned) (keyAllowed : Bool) : Lexer :=
  { l.emit (.scalar style scanned.text) with
    rest := scanned.rest, place := scanned.place, keyAllowed }

def quoted? (l : Lexer) (isDouble : Bool) : Option Lexer := do
  let l ← l.saveKey?
  let l := l.skip 1
  let scanned ← readQuoted isDouble l.rest l.place .text [] {}
  return l.take .quoted scanned false

def block? (l : Lexer) (isFolded : Bool) : Option Lexer := do
  let l ← l.dropKey?
  let l := l.skip 1
  let scanned ← readBlockScalar isFolded l.margin l.rest l.place
  return l.take (if isFolded then .folded else .literal) scanned true

def plain? (l : Lexer) : Option Lexer := do
  let l ← l.saveKey?
  let scanned ← readPlain l.inFlow l.margin l.rest l.place [] {}
  return l.take .plain scanned scanned.broken

def flowStart? (l : Lexer) (t : Token) : Option Lexer := do
  let l ← l.saveKey?
  return { (l.skip 1).emit t with
    key := none, outerKeys := l.key :: l.outerKeys, keyAllowed := true }

def flowEnd? (l : Lexer) (t : Token) : Option Lexer := do
  let l ← l.dropKey?
  let (key, outerKeys) := match l.outerKeys with
    | [] => (l.key, [])
    | key :: keys => (key, keys)
  return { (l.skip 1).emit t with key, outerKeys, keyAllowed := false }

/-- The comma between two entries of a flow sequence or mapping. -/
def comma? (l : Lexer) : Option Lexer := do
  let l ← l.dropKey?
  return { (l.skip 1).emit .comma with keyAllowed := true }

/-- Begins a block of this kind unless one has begun at this column. -/
def openHere? (l : Lexer) (t : Token) : Option Lexer :=
  if l.inFlow then some l
  else if !l.keyAllowed then none
  else some (l.openBlock l.place.column l.tokens.length t)

def dash? (l : Lexer) : Option Lexer := do
  let l ← (← l.openHere? .blockSequence).dropKey?
  return { (l.skip 1).emit .entry with keyAllowed := true }

def key? (l : Lexer) : Option Lexer := do
  let l ← (← l.openHere? .blockMapping).dropKey?
  return { (l.skip 1).emit .key with keyAllowed := !l.inFlow }

def value? (l : Lexer) : Option Lexer :=
  match l.key with
  | some k =>
    let l := (l.emitAt k.index .key).openBlock k.place.column k.index .blockMapping
    some { (l.skip 1).emit .value with key := none, keyAllowed := false }
  | none => do
    let l ← l.openHere? .blockMapping
    return { (l.skip 1).emit .value with keyAllowed := !l.inFlow }

def mark? (l : Lexer) (t : Token) : Option Lexer := do
  let l ← (l.closeBlocks 0).dropKey?
  return { (l.skip 3).emit t with keyAllowed := false }

/-- Reads the token that begins with `c`; `next` follows it. -/
def token? (l : Lexer) (c : Char) (next : List Char) : Option Lexer :=
  if l.place.column == 0 && c == '%' then l.directive?
  else if atDocumentMark l.place (c :: next) then
    l.mark? (if c == '-' then .documentStart else .documentEnd)
  else if c == '[' then l.flowStart? .flowSequence
  else if c == '{' then l.flowStart? .flowMapping
  else if c == ']' then l.flowEnd? .flowSequenceEnd
  else if c == '}' then l.flowEnd? .flowMappingEnd
  else if c == ',' then l.comma?
  else if c == '-' && atWordEnd next then l.dash?
  else if c == '?' && (l.inFlow || atWordEnd next) then l.key?
  else if c == ':' && (l.inFlow || atWordEnd next) then l.value?
  else if c == '*' then l.named? .alias
  else if c == '&' then l.named? .anchor
  else if c == '!' then l.tag?
  else if c == '|' && !l.inFlow then l.block? false
  else if c == '>' && !l.inFlow then l.block? true
  else if c == '\'' then l.quoted? false
  else if c == '"' then l.quoted? true
  else if c == '\t' || ['#', '|', '>', '%', '@', '\x60'].contains c then none
  else l.plain?

/-- Reads all tokens; every one of them takes a character or more. -/
def run? : Nat → Lexer → Option (List Token)
  | 0, _ => none
  | n + 1, l => do
    let l ← l.settle?
    match l.rest with
    | [] =>
      let l ← (l.closeBlocks 0).dropKey?
      return l.tokens.reverse
    | c :: next => run? n (← l.token? c next)

end Lexer

/-- The tokens of a document, `none` when it is not YAML. -/
def tokens? (document : List Char) : Option (List Token) :=
  if document.all isAllowed then
    let text := unifyBreaks document
    Lexer.run? (text.length + 1) { rest := text }
  else none

end ObjectRelay.Yaml
