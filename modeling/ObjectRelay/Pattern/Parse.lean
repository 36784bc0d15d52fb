import ObjectRelay.Pattern.Class
/-!
# Reading patterns

A pattern is a choice between sequences of items; an item may be repeated.  Groups
remember what they match, by number and, if they have one, by name.
-/
namespace ObjectRelay.Pattern

open Unicode (CharSet)

abbrev Regex := Expr CharSet Look

namespace Read

/-! ## Single items -/

/-- A character, matched in either case where case does not count. -/
def literal (c : Char) (isByte : Bool) : Read Regex := do
  require ((← get).flags.unicode || !isByte || c.toNat < 0x80)
  return .one (← closed (.single c))

/-- The expression for what one character or escape stands for. -/
def ofPrimitive : Primitive → Read Regex
  | .literal c isByte => literal c isByte
  | .set s => return .one s
  | .look l => return .look l

/-- Any character, line ends excepted unless the flags say otherwise. -/
def dot : Read Regex := do
  let flags := (← get).flags
  require flags.unicode
  return .one
    (if flags.dotAll then .any
    else if flags.anyLineEnd then .compl (.ranges [(0xA, 0xA), (0xD, 0xD)])
    else .compl (.single '\n'))

def caret : Read Regex := do
  let flags := (← get).flags
  return .look
    (if !flags.multiLine then .textStart
    else if flags.anyLineEnd then .anyLineStart
    else .lineStart)

def dollar : Read Regex := do
  let flags := (← get).flags
  return .look
    (if !flags.multiLine then .textEnd
    else if flags.anyLineEnd then .anyLineEnd
    else .lineEnd)

/-! ## Repetitions -/

/-- Repeats the item read last; what only sets flags cannot be repeated. -/
def repeated (items : List (Option Regex)) (least : Nat) (most : Option Nat) :
    Read (List (Option Regex)) := do
  match items with
  | some e :: items =>
    let isLazy ← takes ['?']
    let greedy := isLazy == (← get).flags.swapGreed
    return some (.times e least most greedy) :: items
  | _ => failure

/-- A number below `2 ^ 32`, blanks around it passed over. -/
def count? : Read (Option Nat) := do
  modify fun r => { r with rest := r.rest.dropWhile isBlank }
  let digits ← takeWhile Char.isDigit
  let _ ← takeWhile isBlank
  if digits.isEmpty then return none
  let n := digits.foldl (fun n c => 10 * n + (c.toNat - 48)) 0
  require (n < UInt32.size)
  return some n

def counted (items : List (Option Regex)) : Read (List (Option Regex)) := do
  require (items.head?.join.isSome)
  skipSpaced
  match ← count? with
  | none => failure
  | some least =>
    let most ←
      if (← peek) == some ',' then
        skipSpaced
        if (← peek) == some '}' then pure none
        else match ← count? with
          | none => failure
          | some most => pure (some most)
      else pure (some least)
    require ((← peek) == some '}')
    skipSpaced
    require (most.all (least ≤ ·))
    repeated items least most

/-! ## Groups -/

def isNameChar (isFirst : Bool) (c : Char) : Bool :=
  if isFirst then c == '_' || Unicode.alphabetic.has c
  else c == '_' || c == '.' || c == '[' || c == ']' || Unicode.alphanumeric.has c

/-- The name of a group up to its closing bracket; no two groups share one. -/
def groupName : Read (List Char) := do
  let name := (← get).rest.takeWhile (· != '>')
  match name with
  | [] => failure
  | c :: rest =>
    require (isNameChar true c && rest.all (isNameChar false))
    modify fun r => { r with rest := r.rest.drop name.length }
    require (← takes ['>'])
    require (!(← get).names.any (·.1 == name))
    return name

def nextGroup : Read Nat := do
  let r ← get
  set { r with groups := r.groups + 1 }
  return r.groups + 1

def setFlag? (c : Char) (on : Bool) (f : Flags) : Option Flags :=
  match c with
  | 'i' => some { f with caseless := on }
  | 'm' => some { f with multiLine := on }
  | 's' => some { f with dotAll := on }
  | 'U' => some { f with swapGreed := on }
  | 'u' => some { f with unicode := on }
  | 'R' => some { f with anyLineEnd := on }
  | 'x' => some { f with spaced := on }
  | _ => none

/-- The flags after some letters; those behind a dash are cleared.  No letter and no
dash may come twice, and a dash may not come last. -/
def flagsAfter? : List Char → Bool → List Char → Flags → Option Flags
  | [], _, _, f => some f
  | c :: s, on, seen, f =>
    if seen.contains c then none
    else if c == '-' then if s.isEmpty then none else flagsAfter? s false (c :: seen) f
    else (setFlag? c on f).bind (flagsAfter? s on (c :: seen))

inductive GroupKind where
  /-- Flags for the rest of the group around it. -/
  | flags
  | plain
  | remembered (index : Nat)

/-- Reads the beginning of a group, whose bracket has been passed. -/
def groupStart : Read GroupKind := do
  if (← sees ['?', '=']) || (← sees ['?', '!']) || (← sees ['?', '<', '=']) ||
      (← sees ['?', '<', '!']) then
    failure
  else if ← takes ['?', 'P', '<'] then named
  else if ← takes ['?', '<'] then named
  else if ← takes ['?'] then
    let letters := (← get).rest.takeWhile fun c => c != ':' && c != ')'
    modify fun r => { r with rest := r.rest.drop letters.length }
    match flagsAfter? letters true [] (← get).flags with
    | none => failure
    | some flags =>
      modify fun r => { r with flags }
      if ← takes [':'] then return .plain
      require (!letters.isEmpty)
      require (← takes [')'])
      return .flags
  else return .remembered (← nextGroup)
where
  /-- The group whose name comes next. -/
  named : Read GroupKind := do
    let index ← nextGroup
    let name ← groupName
    modify fun r => { r with names := (name, index) :: r.names }
    return .remembered index

/-! ## Patterns -/

mutual

/-- Reads a choice, up to the end or a closing bracket. -/
def choice : Nat → Read Regex
  | 0 => failure
  | n + 1 => do
    let items ← sequence n []
    let e := Expr.ofList (items.reverse.filterMap id)
    if ← takes ['|'] then return .alt e (← choice n)
    else return e

/-- Reads the items of a sequence; items read are last first, flags count as none. -/
def sequence : Nat → List (Option Regex) → Read (List (Option Regex))
  | 0, _ => failure
  | n + 1, items => do
    spaces
    match ← peek with
    | none | some ')' | some '|' => return items
    | some '(' =>
      skipSpaced
      sequence n ((← group n) :: items)
    | some '[' => sequence n (some (.one (← bracketed n)) :: items)
    | some '?' =>
      skip
      sequence n (← repeated items 0 (some 1))
    | some '*' =>
      skip
      sequence n (← repeated items 0 none)
    | some '+' =>
      skip
      sequence n (← repeated items 1 none)
    | some '{' => sequence n (← counted items)
    | some '.' =>
      skip
      sequence n (some (← dot) :: items)
    | some '^' =>
      skip
      sequence n (some (← caret) :: items)
    | some '$' =>
      skip
      sequence n (some (← dollar) :: items)
    | some '\\' => sequence n (some (← ofPrimitive (← escape)) :: items)
    | some c =>
      skip
      sequence n (some (← literal c false) :: items)

/-- Reads a group behind its opening bracket; `none` for one that only sets flags. -/
def group : Nat → Read (Option Regex)
  | 0 => failure
  | n + 1 => do
    let outer := (← get).flags
    match ← groupStart with
    | .flags => return none
    | kind =>
      let e ← choice n
      modify fun r => { r with flags := outer }
      require (← takes [')'])
      return some (match kind with
        | .remembered index => .group index e
        | _ => e)

end

end Read

/-- What a pattern's text says, and the names of its groups; `none` when it is no pattern. -/
def parse? (text : List Char) : Option (Regex × List (List Char × Nat)) := do
  let (e, r) ← (Read.choice (3 * text.length + 3)).run { rest := text }
  if r.rest.isEmpty then some (e, r.names) else none

end ObjectRelay.Pattern
