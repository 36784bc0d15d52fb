import ObjectRelay.Json.Reader
import ObjectRelay.Rule.Set
import ObjectRelay.Text.Blank
import ObjectRelay.Text.Cut
import ObjectRelay.Yaml.Node
/-!
# Rules as they are written

A rule is written as a record in a YAML document, or shortly as a pattern and a content
type.  Patterns are compiled once a rule has been read, and an error names the place.
-/
namespace ObjectRelay

open Json (Shape)
open Yaml (Node Style)

structure WrittenRule where
  id : String := ""
  source : Option String := none
  contentType : Option String := none
  contentEncoding : Option String := none
  override : Override := {}
  continues : Bool := false

namespace WrittenRule

def compileField (path field : String) : Option String → Except RuleError (Option Pattern)
  | none => .ok none
  | some text => match Pattern.ofString? text with
    | some p => .ok (some p)
    | none => .error (.invalidPattern (path ++ ".match." ++ field))

/-- Compiles the patterns of a rule that is found at `path`, and checks the rule. -/
def compile (w : WrittenRule) (path : String) : Except RuleError Rule := do
  let source ← compileField path "source" w.source
  let contentType ← compileField path "content-type" w.contentType
  let contentEncoding ← compileField path "content-encoding" w.contentEncoding
  let rule : Rule := {
    id := w.id
    condition := { source, contentType, contentEncoding }
    override := w.override
    continues := w.continues }
  rule.validate path
  return rule

/-! ## As JSON -/

/-- A field that may be missing or `null`. -/
def optionalField (name : String) : Json.Field := (name, .named, .nullable .text)

def shape : Shape :=
  .record [
    ("id", .optional, .text),
    ("match", .optional, .record [optionalField "source", optionalField "content-type",
      optionalField "content-encoding"] .refused),
    ("override", .optional, .record [optionalField "content-type",
      optionalField "content-encoding", optionalField "key"] .refused),
    ("continue", .optional, .flag)] .refused

/-- The rule that a JSON value writes, `none` when it writes none. -/
def ofJson? (v : Json) : Option WrittenRule := do
  let rule ← shape.conform v
  let condition := rule.recordAt "match"
  let override := rule.recordAt "override"
  return {
    id := rule.textAt "id"
    source := condition.textAt? "source"
    contentType := condition.textAt? "content-type"
    contentEncoding := condition.textAt? "content-encoding"
    override := {
      contentType := override.textAt? "content-type"
      contentEncoding := override.textAt? "content-encoding"
      key := override.textAt? "key" }
    continues := rule.flagAt "continue" }

/-! ## As YAML -/

/-- The fields of a record: known ones, none twice; nothing at all is no fields. -/
def fieldsOfNode? (known : List String) : Node → Option (List (String × Node))
  | .mapping members => fieldsOfMembers members
  | .scalar .plain _ [] => some []
  | _ => none
where
  fieldsOfMembers : List (Node × Node) → Option (List (String × Node))
    | [] => some []
    | (.scalar _ _ name, value) :: rest => do
      let fields ← fieldsOfMembers rest
      let name := String.ofList name
      if known.contains name && (fields.lookup name).isNone then some ((name, value) :: fields)
      else none
    | _ :: _ => none

/-- The text of a scalar, whatever it looks like. -/
def textOfNode? : Node → Option String
  | .scalar _ _ text => some (String.ofList text)
  | _ => none

/-- Whether a plain scalar stands for a missing value. -/
def isNullText (text : List Char) : Bool :=
  ["null", "Null", "NULL", "~"].contains (String.ofList text)

/-- Whether a node stands for a missing value; the outer `none` for one that claims to
and does not. -/
def isNullNode? : Node → Option Bool
  | .scalar .plain (some tag) text =>
    if String.ofList tag == "tag:yaml.org,2002:null" then
      if isNullText text then some true else none
    else some false
  | .scalar .plain none text => some (text.isEmpty || isNullText text)
  | _ => some false

/-- The text of a scalar that may be missing. -/
def optionalTextOfNode? (node : Node) : Option (Option String) := do
  if ← isNullNode? node then some none else (textOfNode? node).map some

def flagOfNode? : Node → Option Bool
  | .scalar style tag text =>
    let isTagged := tag.map String.ofList == some "tag:yaml.org,2002:bool"
    if style == .plain || (style == .literal && isTagged) then
      match String.ofList text with
      | "true" | "True" | "TRUE" => some true
      | "false" | "False" | "FALSE" => some false
      | _ => none
    else none
  | _ => none

def fieldOf? {α : Type} (fields : List (String × Node)) (name : String) (default : α)
    (read : Node → Option α) : Option α :=
  match fields.lookup name with
  | none => some default
  | some node => read node

def ofNode? (node : Node) : Option WrittenRule := do
  let fields ← fieldsOfNode? ["id", "match", "override", "continue"] node
  let condition ← fieldOf? fields "match" [] <|
    fieldsOfNode? ["source", "content-type", "content-encoding"]
  let override ← fieldOf? fields "override" [] <|
    fieldsOfNode? ["content-type", "content-encoding", "key"]
  return {
    id := ← fieldOf? fields "id" "" textOfNode?
    source := ← fieldOf? condition "source" none optionalTextOfNode?
    contentType := ← fieldOf? condition "content-type" none optionalTextOfNode?
    contentEncoding := ← fieldOf? condition "content-encoding" none optionalTextOfNode?
    override := {
      contentType := ← fieldOf? override "content-type" none optionalTextOfNode?
      contentEncoding := ← fieldOf? override "content-encoding" none optionalTextOfNode?
      key := ← fieldOf? override "key" none optionalTextOfNode? }
    continues := ← fieldOf? fields "continue" false flagOfNode? }

/-- The rules of a document: a sequence of them, or nothing. -/
def ofDocument? : Option Node → Option (List WrittenRule)
  | none => some []
  | some node => do
    if ← isNullNode? node then some []
    else match node with
      | .sequence items => items.mapM ofNode?
      | .scalar .plain _ [] => some []
      | _ => none

end WrittenRule

namespace RuleSet

/-- Compiles rules whose places `path` tells, from a position on. -/
def compileFrom (path : Nat → String) : Nat → List WrittenRule → Except RuleError (List Rule)
  | _, [] => .ok []
  | i, w :: rest => do
    let rule ← w.compile (path i)
    let rules ← compileFrom path (i + 1) rest
    return rule :: rules

def ofYaml (name document : String) : Except RuleError RuleSet := do
  let written ←
    if trimBlank document == "" then .ok []
    else match (Yaml.read? document.toList).bind WrittenRule.ofDocument? with
      | some written => .ok written
      | none => .error .document
  let rules ← compileFrom (rulePath name) 0 written
  ofRules name rules

/-- The rule of an entry `<pattern>=<content-type>`, none for a blank one. -/
def ruleOfEntry (path entry : String) : Except RuleError (Option Rule) :=
  let entry := trimBlank entry
  if entry == "" then .ok none
  else match cutAt ['='] entry.toList with
    | none => .error (.malformedText entry)
    | some (pattern, contentType) =>
      match Pattern.ofString? (String.ofList pattern) with
      | none => .error (.invalidPattern path)
      | some source => .ok (some {
          condition := { source := some source }
          override := { contentType := some (String.ofList contentType) } })

def rulesOfEntries (name : String) : Nat → List String → Except RuleError (List Rule)
  | _, [] => .ok []
  | i, entry :: rest => do
    let rule ← ruleOfEntry (name ++ "[" ++ toString i ++ "]") entry
    let rules ← rulesOfEntries name (i + 1) rest
    return rule.toList ++ rules

/-- The set of entries `<pattern>=<content-type>`; blank ones are passed over. -/
def ofEntries (name : String) (entries : List String) : Except RuleError RuleSet := do
  ofRules name (← rulesOfEntries name 0 entries)

end RuleSet

end ObjectRelay
