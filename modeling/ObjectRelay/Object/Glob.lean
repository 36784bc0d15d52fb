/-!
# Globs

`*` stands for any run of characters and `?` for any one character; every other
character stands for itself.  A glob knows nothing of paths or lines: a slash or a
line end is a character like any other.

Two forms of the same thing are given: what it means for a glob to match a text, and
a table that finds out in time proportional to the two lengths multiplied.
-/
namespace ObjectRelay

inductive Glob.Part where
  /-- Any run of characters, also none. -/
  | run
  | one
  | char (c : Char)
deriving DecidableEq, Repr

abbrev Glob := List Glob.Part

namespace Glob

/-- The part that a character of a written glob stands for. -/
def Part.ofChar (c : Char) : Part :=
  if c == '*' then .run else if c == '?' then .one else .char c

def ofChars (written : List Char) : Glob := written.map Part.ofChar

def ofString (written : String) : Glob := ofChars written.toList

/-- A glob matches a text as a whole. -/
inductive Matches : Glob → List Char → Prop where
  | nil : Matches [] []
  | char {c : Char} {g : Glob} {s : List Char} : Matches g s → Matches (.char c :: g) (c :: s)
  | one {c : Char} {g : Glob} {s : List Char} : Matches g s → Matches (.one :: g) (c :: s)
  | skip {g : Glob} {s : List Char} : Matches g s → Matches (.run :: g) s
  | more {c : Char} {g : Glob} {s : List Char} : Matches (.run :: g) s → Matches (.run :: g) (c :: s)

/-! ## The table -/

/-- The row of the empty glob: of the suffixes of a text it matches the empty one only. -/
def emptyRow : List Char → List Bool
  | [] => [true]
  | _ :: s => false :: emptyRow s

/-- The row of a glob with one more part in front: for each suffix of the text, from
the whole text down to the empty one, whether the longer glob matches it. -/
def Part.row (part : Part) : List Char → List Bool → List Bool
  | [], below => match part with
    | .run => below
    | _ => [false]
  | c :: s, below =>
    let later := part.row s below.tail
    let first := match part with
      | .run => below.headD false || later.headD false
      | .one => below.tail.headD false
      | .char d => c == d && below.tail.headD false
    first :: later

/-- For each suffix of the text whether the glob matches it. -/
def row (s : List Char) : Glob → List Bool
  | [] => emptyRow s
  | part :: g => part.row s (row s g)

def accepts (g : Glob) (s : List Char) : Bool := (row s g).headD false

end Glob

end ObjectRelay
