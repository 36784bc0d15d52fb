import ObjectRelay.Unicode.Ranges
/-!
# Tokens of a YAML document

A document is cut into tokens first.  Where blocks begin and end is a matter of
columns, so it is settled here, and the tokens say it outright.
-/
namespace ObjectRelay.Yaml

inductive Style where
  | plain
  | quoted
  | literal
  | folded
deriving DecidableEq, Repr

inductive Token where
  /-- `%YAML major.minor` -/
  | version (major minor : Nat)
  /-- `%TAG handle start` -/
  | handle (name start : List Char)
  /-- `---` -/
  | documentStart
  /-- `...` -/
  | documentEnd
  /-- The first entry of a block sequence is about to come. -/
  | blockSequence
  /-- The first key of a block mapping is about to come. -/
  | blockMapping
  | blockEnd
  | flowSequence
  | flowSequenceEnd
  | flowMapping
  | flowMappingEnd
  | entry
  | comma
  | key
  | value
  | alias (name : List Char)
  | anchor (name : List Char)
  /-- A tag: the handle that abbreviates its beginning, empty for none, and the rest. -/
  | tag (handle rest : List Char)
  | scalar (style : Style) (text : List Char)
deriving DecidableEq, Repr

/-! ## Characters -/

def isGap (c : Char) : Bool := c == ' ' || c == '\t'

/-- What ends a line, once the line ends of all systems have been made one. -/
def isBreak (c : Char) : Bool := c == '\n' || c == '\u2028' || c == '\u2029'

/-- Whether a word ends here: in front of a gap, a line end or the end of the text. -/
def atWordEnd : List Char → Bool
  | [] => true
  | c :: _ => isGap c || isBreak c

def isNameChar (c : Char) : Bool := c.isAlphanum || c == '_' || c == '-'

/-- A character that begins or ends something in a flow sequence or mapping. -/
def isFlowIndicator (c : Char) : Bool :=
  c == ',' || c == '[' || c == ']' || c == '{' || c == '}'

def isAllowed (c : Char) : Bool :=
  let n := c.toNat
  n == 0x9 || n == 0xA || n == 0xD || (0x20 ≤ n && n ≤ 0x7E) || n == 0x85 ||
    (0xA0 ≤ n && n ≤ 0xFFFD) || 0x10000 ≤ n

/-- The text with one line feed for every carriage return, line feed, pair of the two,
and next line character. -/
def unifyBreaks : List Char → List Char
  | [] => []
  | '\r' :: '\n' :: s => '\n' :: unifyBreaks s
  | c :: s => (if c == '\r' || c == '\u0085' then '\n' else c) :: unifyBreaks s

/-! ## Places -/

/-- A place in a text: characters before it, lines before it, characters of its line
before it. -/
structure Place where
  index : Nat := 0
  line : Nat := 0
  column : Nat := 0
deriving DecidableEq, Repr

def Place.next (p : Place) (c : Char) : Place :=
  if isBreak c then ⟨p.index + 1, p.line + 1, 0⟩ else ⟨p.index + 1, p.line, p.column + 1⟩

def Place.behind (p : Place) (s : List Char) : Place := s.foldl Place.next p

/-- Whether a line begins with the mark of a document's start or end. -/
def atDocumentMark (p : Place) : List Char → Bool
  | '-' :: '-' :: '-' :: s => p.column == 0 && atWordEnd s
  | '.' :: '.' :: '.' :: s => p.column == 0 && atWordEnd s
  | _ => false

end ObjectRelay.Yaml
