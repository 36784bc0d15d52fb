import ObjectRelay.Rule.Rule
/-!
# Sets of rules

The rules of a set are tried in order until one fires that does not say to go on.
Sets exclude one another: the first one of which a rule fires is the only one.
-/
namespace ObjectRelay

structure RuleSet where
  name : String
  rules : List Rule

structure Firing where
  set : String
  /-- The id of the rule, or its position when it has none. -/
  id : String
deriving DecidableEq, Repr

def Firing.text (f : Firing) (source : String) : String :=
  "override " ++ f.set ++ "/" ++ f.id ++ " matched " ++ source

/-- The id of a rule, or its position in the set when it has none. -/
def Rule.effectiveId (r : Rule) (position : Nat) : String :=
  if r.id == "" then toString position else r.id

namespace RuleSet

def rulePath (name : String) (position : Nat) : String :=
  name ++ ".rules[" ++ toString position ++ "]"

/-- Checks the rules from a position on, given the ids of those before it. -/
def validateFrom (name : String) : Nat → List String → List Rule → Except RuleError Unit
  | _, _, [] => .ok ()
  | i, seen, r :: rest => do
    r.validate (rulePath name i)
    let id := r.effectiveId i
    if seen.contains id then .error (.duplicateId name id)
    else validateFrom name (i + 1) (id :: seen) rest

/-- A set of valid rules no two of which share an id. -/
def ofRules (name : String) (rules : List Rule) : Except RuleError RuleSet := do
  validateFrom name 0 [] rules
  return { name, rules }

/-- Tries the rules from a position on: what becomes of the copy, and what fired. -/
def applyFrom (name : String) : Nat → List Rule → CopyOperation → CopyOperation × List Firing
  | _, [], op => (op, [])
  | i, r :: rest, op =>
    match r.fire? op with
    | none => applyFrom name (i + 1) rest op
    | some changed =>
      let firing : Firing := ⟨name, r.effectiveId i⟩
      if r.continues then
        let (final, fired) := applyFrom name (i + 1) rest changed
        (final, firing :: fired)
      else (changed, [firing])

/-- Tries the rules of a set: what becomes of the copy, and what fired. -/
def apply (set : RuleSet) (op : CopyOperation) : CopyOperation × List Firing :=
  applyFrom set.name 0 set.rules op

def isEmpty (set : RuleSet) : Bool := set.rules.isEmpty

end RuleSet

/-- Sets that exclude one another, in the order in which they are tried. -/
abbrev RuleSets := List RuleSet

/-- Applies the first set of which a rule fires. -/
def RuleSets.apply : RuleSets → CopyOperation → CopyOperation × List Firing
  | [], op => (op, [])
  | set :: rest, op =>
    match set.apply op with
    | (_, []) => RuleSets.apply rest op
    | changed => changed

end ObjectRelay
