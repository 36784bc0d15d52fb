import ObjectRelay.Number.Unsigned
import ObjectRelay.Pattern.Parse
import ObjectRelay.Pattern.Search
import ObjectRelay.Text.Cut
/-!
# Patterns and what is made of their matches

A pattern is its text and what the text says.  A template is filled in with what the
groups of a match hold: `$name` or `${name}` is a group's number or name, `$$` a
dollar sign, and a dollar sign in front of anything else, such as a brace that is never
closed, stands for itself.
-/
namespace ObjectRelay

structure Pattern where
  text : String
  expr : Pattern.Regex
  /-- The names of its groups and their numbers. -/
  names : List (List Char × Nat)

structure Match where
  searched : List Char
  marks : Pattern.Marks
  names : List (List Char × Nat)

namespace Pattern

def ofString? (text : String) : Option Pattern :=
  (parse? text.toList).map fun (expr, names) => { text, expr, names }

/-- Whether the pattern matches some part of a text. -/
def accepts (p : Pattern) (s : String) : Bool := p.expr.occursIn s.toList

def match? (p : Pattern) (s : String) : Option Match :=
  (p.expr.find? s.toList).map fun marks => { searched := s.toList, marks, names := p.names }

end Pattern

namespace Match

/-- What the group with this number matched, nothing if it took no part. -/
def group (m : Match) (index : Nat) : List Char :=
  match m.marks.lookup index with
  | some (i, j) => (m.searched.take j).drop i
  | none => []

/-- What a reference in a template stands for: a group's number, or its name. -/
def reference (m : Match) (name : List Char) : List Char :=
  match Unsigned.read (UInt64.size - 1) name with
  | .ok index => m.group index
  | .error _ => match m.names.lookup name with
    | some index => m.group index
    | none => []

/-- Characters of a name without braces. -/
def isReferenceChar (c : Char) : Bool := c.isAlphanum || c == '_'

inductive Mode where
  | text
  | dollar
  /-- Inside a name without braces, last character first. -/
  | name (done : List Char)
  /-- Inside braces, last character first. -/
  | braced (done : List Char)

def expandFrom (m : Match) : List Char → Mode → List Char
  | [], .text => []
  | [], .dollar => ['$']
  | [], .name done => m.reference done.reverse
  | [], .braced done => m.reference done.reverse
  | c :: s, .text => if c == '$' then expandFrom m s .dollar else c :: expandFrom m s .text
  | c :: s, .dollar =>
    if c == '$' then '$' :: expandFrom m s .text
    else if c == '{' && s.contains '}' then expandFrom m s (.braced [])
    else if isReferenceChar c then expandFrom m s (.name [c])
    else '$' :: c :: expandFrom m s .text
  | c :: s, .name done =>
    if isReferenceChar c then expandFrom m s (.name (c :: done))
    else m.reference done.reverse ++
      (if c == '$' then expandFrom m s .dollar else c :: expandFrom m s .text)
  | c :: s, .braced done =>
    if c == '}' then m.reference done.reverse ++ expandFrom m s .text
    else expandFrom m s (.braced (c :: done))

def expand (m : Match) (template : String) : String :=
  String.ofList (m.expandFrom template.toList .text)

end Match

end ObjectRelay
