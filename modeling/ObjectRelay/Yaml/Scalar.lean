import ObjectRelay.Yaml.Token
/-!
# Scalars of a YAML document

A scalar may run over several lines.  Inside plain and quoted scalars a line end with
the gaps around it counts as a space, and more of them as one line end less; literal
scalars keep their lines, folded ones keep those that are indented further.
-/
namespace ObjectRelay.Yaml

/-! ## Gaps between words -/

/-- What stands between two words of a scalar; characters are last first. -/
structure Gap where
  blanks : List Char := []
  /-- Whether a line ends in it. -/
  broken : Bool := false
  /-- The first line end, unless it is escaped. -/
  first : Option Char := none
  more : List Char := []

namespace Gap

def isEmpty (g : Gap) : Bool := g.blanks.isEmpty && !g.broken

/-- One more space, tab or line end.  Blanks around a line end do not count. -/
def add (g : Gap) (c : Char) : Gap :=
  if isBreak c then
    if g.broken then { g with more := c :: g.more }
    else { broken := true, first := some c }
  else if g.broken then g
  else { g with blanks := c :: g.blanks }

/-- What the gap stands for, last first. -/
def folded (g : Gap) : List Char :=
  if !g.broken then g.blanks
  else match g.first with
    | none => g.more
    | some c => if c != '\n' then g.more ++ [c] else if g.more.isEmpty then [' '] else g.more

end Gap

/-! ## Plain scalars -/

/-- A scalar that has been read, and what follows it. -/
structure Scanned where
  text : List Char
  rest : List Char
  place : Place
  /-- Whether the scalar is followed by a line end that has been read with it. -/
  broken : Bool := false

/-- Reads a plain scalar.  In a block its lines begin at the margin or behind it. -/
def readPlain (inFlow : Bool) (margin : Nat) : List Char → Place → List Char → Gap →
    Option Scanned
  | [], p, text, gap => some ⟨text.reverse, [], p, gap.broken⟩
  | c :: s, p, text, gap =>
    if isGap c || isBreak c then
      if gap.broken && p.column < margin && c == '\t' then none
      else readPlain inFlow margin s (p.next c) text (gap.add c)
    else if !gap.isEmpty &&
        ((!inFlow && p.column < margin) || c == '#' || atDocumentMark p (c :: s)) then
      some ⟨text.reverse, c :: s, p, gap.broken⟩
    else if inFlow && c == ':' && (s.head?.any fun d => isFlowIndicator d || d == '?') then none
    else if (c == ':' && atWordEnd s) || (inFlow && isFlowIndicator c) then
      some ⟨text.reverse, c :: s, p, gap.broken⟩
    else readPlain inFlow margin s (p.next c) (c :: (gap.folded ++ text)) {}

/-! ## Quoted scalars -/

inductive QuoteMode where
  | text
  /-- Behind a single quote, which a second one would make a character. -/
  | quote
  | escape
  /-- Inside the number of a character, of which this many digits are missing. -/
  | digits (missing : Nat) (value : Nat)

/-- The character that a letter behind a backslash stands for. -/
def escaped? (c : Char) : Option Char :=
  match c with
  | '0' => some '\x00'
  | 'a' => some '\x07'
  | 'b' => some '\x08'
  | 't' | '\t' => some '\t'
  | 'n' => some '\n'
  | 'v' => some '\x0b'
  | 'f' => some '\x0c'
  | 'r' => some '\r'
  | 'e' => some '\x1b'
  | ' ' => some ' '
  | '"' => some '"'
  | '/' => some '/'
  | '\\' => some '\\'
  | 'N' => some '\u0085'
  | '_' => some '\u00a0'
  | 'L' => some '\u2028'
  | 'P' => some '\u2029'
  | _ => none

/-- How many digits follow a letter that begins the number of a character. -/
def escapeDigits? (c : Char) : Option Nat :=
  match c with
  | 'x' => some 2
  | 'u' => some 4
  | 'U' => some 8
  | _ => none

def readQuoted (isDouble : Bool) : List Char → Place → QuoteMode → List Char → Gap →
    Option Scanned
  | [], p, .quote, text, _ => some ⟨text.reverse, [], p, false⟩
  | [], _, _, _, _ => none
  | c :: s, p, .quote, text, _ =>
    if c == '\'' then readQuoted isDouble s (p.next c) .text ('\'' :: text) {}
    else some ⟨text.reverse, c :: s, p, false⟩
  | c :: s, p, .digits missing value, text, _ =>
    match Ranges.hexDigit? c with
    | none => none
    | some d =>
      let value := 16 * value + d
      if 1 < missing then readQuoted isDouble s (p.next c) (.digits (missing - 1) value) text {}
      else if value.isValidChar then
        readQuoted isDouble s (p.next c) .text (Char.ofNat value :: text) {}
      else none
  | c :: s, p, .escape, text, _ =>
    if isBreak c then readQuoted isDouble s (p.next c) .text text { broken := true }
    else match escaped? c, escapeDigits? c with
      | some d, _ => readQuoted isDouble s (p.next c) .text (d :: text) {}
      | none, some n => readQuoted isDouble s (p.next c) (.digits n 0) text {}
      | none, none => none
  | c :: s, p, .text, text, gap =>
    if isGap c || isBreak c then readQuoted isDouble s (p.next c) .text text (gap.add c)
    else if atDocumentMark p (c :: s) then none
    else
      let text := gap.folded ++ text
      if isDouble && c == '"' then some ⟨text.reverse, s, p.next c, false⟩
      else if isDouble && c == '\\' then readQuoted isDouble s (p.next c) .escape text {}
      else if !isDouble && c == '\'' then readQuoted isDouble s (p.next c) .quote text {}
      else readQuoted isDouble s (p.next c) .text (c :: text) {}

/-! ## Block scalars -/

/-- What becomes of the line ends behind a block scalar. -/
inductive Chomping where
  /-- All but the first are dropped. -/
  | clip
  /-- All are dropped. -/
  | strip
  /-- All are kept. -/
  | keep
deriving DecidableEq, Repr

/-- Reads `+` or `-`. -/
def readChomping : List Char → Option Chomping × List Char
  | '+' :: s => (some .keep, s)
  | '-' :: s => (some .strip, s)
  | s => (none, s)

/-- Reads the digit that says how far a block scalar is indented; zero is refused. -/
def readStep? : List Char → Option (Nat × List Char)
  | c :: s => if !c.isDigit then some (0, c :: s) else if c == '0' then none else some (c.toNat - 48, s)
  | [] => some (0, [])

/-- Reads what follows the indicator of a block scalar, in either order: what to do
with line ends, and how far the scalar is indented, zero for not given. -/
def readBlockHeader? (s : List Char) : Option (Chomping × Nat × List Char) :=
  match readChomping s with
  | (some chomping, s) => (readStep? s).map fun (step, s) => (chomping, step, s)
  | (none, s) => (readStep? s).map fun (step, s) =>
    if step == 0 then (.clip, step, s)
    else match readChomping s with
      | (some chomping, s) => (chomping, step, s)
      | (none, s) => (.clip, step, s)

/-- Skips the blanks and the comment at the end of a line, and the line end. -/
def skipLineEnd? (inComment : Bool) : List Char → Place → Option (List Char × Place)
  | [], p => some ([], p)
  | c :: s, p =>
    if isBreak c then some (s, p.next c)
    else if inComment || isGap c then skipLineEnd? inComment s (p.next c)
    else if c == '#' then skipLineEnd? true s (p.next c)
    else none

/-- Looks for the first line of a block scalar: the greatest column reached on the way,
the line ends passed (last first), and what is left. -/
def findIndent? : List Char → Place → Nat → List Char → Option (Nat × List Char × List Char × Place)
  | [], p, greatest, breaks => some (greatest.max p.column, breaks, [], p)
  | c :: s, p, greatest, breaks =>
    if c == ' ' then findIndent? s (p.next c) greatest breaks
    else if c == '\t' then none
    else if isBreak c then findIndent? s (p.next c) (greatest.max p.column) (c :: breaks)
    else some (greatest.max p.column, breaks, c :: s, p)

/-- A block scalar that is being read; characters are last first. -/
structure BlockScan where
  text : List Char := []
  /-- The end of the line just read. -/
  first : Option Char := none
  /-- Line ends that follow it. -/
  more : List Char := []
  /-- Whether the line just read begins with a blank. -/
  blank : Bool := false

def BlockScan.begin (b : BlockScan) (isFolded : Bool) (c : Char) : BlockScan :=
  let joint :=
    if isFolded && b.first == some '\n' && !b.blank && !isGap c then
      if b.more.isEmpty then [' '] else []
    else b.first.toList
  { text := c :: (b.more ++ joint ++ b.text), blank := isGap c }

/-- Reads the lines of a block scalar that begin at the column `indent`. -/
def readBlock (isFolded : Bool) (indent : Nat) : List Char → Place → Bool → BlockScan →
    Option (BlockScan × List Char × Place)
  | [], p, _, b => some (b, [], p)
  | c :: s, p, true, b =>
    if isBreak c then readBlock isFolded indent s (p.next c) false { b with first := some c }
    else readBlock isFolded indent s (p.next c) true { b with text := c :: b.text }
  | c :: s, p, false, b =>
    if p.column < indent && c == ' ' then readBlock isFolded indent s (p.next c) false b
    else if p.column < indent && c == '\t' then none
    else if isBreak c then
      readBlock isFolded indent s (p.next c) false { b with more := c :: b.more }
    else if p.column == indent then
      readBlock isFolded indent s (p.next c) true (b.begin isFolded c)
    else some (b, c :: s, p)

/-- Reads a block scalar behind its indicator, in a block with this margin. -/
def readBlockScalar (isFolded : Bool) (margin : Nat) (s : List Char) (p : Place) :
    Option Scanned := do
  let (chomping, step, s) ← readBlockHeader? s
  let (s, p) ← skipLineEnd? false s p
  let (b, s, p) ←
    if step == 0 then do
      let (greatest, breaks, s, p) ← findIndent? s p 0 []
      readBlock isFolded ((greatest.max margin).max 1) s p false { more := breaks }
    else readBlock isFolded (margin - 1 + step) s p false {}
  let kept := match chomping with
    | .strip => []
    | .clip => b.first.toList
    | .keep => b.more ++ b.first.toList
  return ⟨(kept ++ b.text).reverse, s, p, false⟩

end ObjectRelay.Yaml
