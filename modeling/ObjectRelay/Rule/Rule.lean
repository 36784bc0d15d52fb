import ObjectRelay.Object.Copy
import ObjectRelay.Pattern.Template
import ObjectRelay.Text.Quoted
/-!
# Override rules

A rule looks at a pending copy and, when all its patterns match, overrides the metadata
that the copy will carry, or its key.  A rule that matches always replaces metadata;
one that does not match leaves the copy as it is.
-/
namespace ObjectRelay

inductive RuleError where
  | invalidPattern (path : String)
  | invalidId (path id : String)
  | emptyOverride (path : String)
  | duplicateId (set id : String)
  | malformedText (entry : String)
  | document
  | presetNotFound (name : String)
deriving DecidableEq, Repr

def RuleError.message : RuleError → String
  | invalidPattern path => path ++ ": invalid pattern"
  | invalidId path id => path ++ ": invalid rule id " ++ quoted id
  | emptyOverride path => path ++ ": rule does not override anything"
  | duplicateId set id => set ++ ": duplicate rule id " ++ quoted id
  | malformedText entry =>
    "malformed override " ++ quoted entry ++ ", expected <pattern>=<content-type>"
  | document => "failed to parse rule document"
  | presetNotFound name => "preset " ++ quoted name ++ " not found"

/-- The patterns that a copy must match; an absent one matches anything. -/
structure Condition where
  source : Option Pattern := none
  contentType : Option Pattern := none
  contentEncoding : Option Pattern := none

structure Override where
  contentType : Option String := none
  contentEncoding : Option String := none
  /-- The new key, a template for what the source pattern matched if there is one. -/
  key : Option String := none
deriving DecidableEq, Repr

def Override.isEmpty (o : Override) : Bool :=
  o.contentType.isNone && o.contentEncoding.isNone && o.key.isNone

structure Rule where
  id : String := ""
  condition : Condition := {}
  override : Override := {}
  /-- Whether the rules behind this one are tried when it has fired. -/
  continues : Bool := false

namespace Rule

/-- Whether a field matches; an absent one is matched as empty text. -/
def fieldMatches (pattern : Option Pattern) (field : Option String) : Bool :=
  pattern.all fun p => p.accepts (field.getD "")

/-- The key that a rule writes, given the match of its source pattern if it has one. -/
def newKey (template : String) (found : Option Match) : String :=
  match found with
  | some m => m.expand template
  | none => template

/-- What the rule makes of a copy whose source has been matched. -/
def overridden (r : Rule) (found : Option Match) (op : CopyOperation) : CopyOperation :=
  { op with
    key := match r.override.key with
      | some template => newKey template found
      | none => op.key
    contentType := r.override.contentType <|> op.contentType
    contentEncoding := r.override.contentEncoding <|> op.contentEncoding
    metadataDirective := some .replace }

/-- What the rule makes of a copy, `none` when it does not match. -/
def fire? (r : Rule) (op : CopyOperation) : Option CopyOperation :=
  let fields :=
    fieldMatches r.condition.contentType op.contentType &&
      fieldMatches r.condition.contentEncoding op.contentEncoding
  match r.condition.source with
  | none => if fields then some (r.overridden none op) else none
  | some p => match p.match? op.copySource with
    | none => none
    | some m => if fields then some (r.overridden (some m) op) else none

/-- An id is empty, or a letter followed by letters, digits and slashes. -/
def isValidId (id : String) : Bool :=
  match id.toList with
  | [] => true
  | c :: rest => c.isAlpha && rest.all fun c => c.isAlphanum || c == '/'

def validate (r : Rule) (path : String) : Except RuleError Unit :=
  if !isValidId r.id then .error (.invalidId path r.id)
  else if r.override.isEmpty then .error (.emptyOverride path)
  else .ok ()

end Rule

end ObjectRelay
