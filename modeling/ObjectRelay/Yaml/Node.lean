import ObjectRelay.Yaml.Lexer
/-!
# YAML documents

What a document holds: scalars with their text, sequences and mappings.  What a
plain scalar such as `true` or `~` means is left to the reader, who knows what is
expected.  An alias is the node that its anchor names.
-/
namespace ObjectRelay.Yaml

inductive Node where
  | scalar (style : Style) (tag : Option (List Char)) (text : List Char)
  | sequence (items : List Node)
  | mapping (members : List (Node × Node))

/-- The node that stands where nothing is written. -/
def Node.nothing : Node := .scalar .plain none []

structure Reading where
  tokens : List Token
  /-- The nodes that anchors name, the latest first; none while a node is being read. -/
  anchors : List (List Char × Option Node) := []
  /-- What the handles of tags abbreviate. -/
  handles : List (List Char × List Char) := []

/-- Reads something from tokens, or finds that it is not there. -/
abbrev Read := StateT Reading Option

namespace Read

def peek : Read (Option Token) := do return (← get).tokens.head?

def skip : Read Unit := modify fun r => { r with tokens := r.tokens.drop 1 }

def sees (tokens : List Token) : Read Bool := do
  return (← peek).any tokens.contains

/-- Passes over the next token if it is this one. -/
def takes (token : Token) : Read Bool := do
  if ← sees [token] then
    skip
    return true
  else return false

/-- Passes over the next token, which must be this one. -/
def expects (token : Token) : Read Unit := do
  if !(← takes token) then failure

def resolveTag (handle rest : List Char) : Read (List Char) := do
  if handle.isEmpty then return rest
  let known := (← get).handles ++ [(['!'], ['!']), ("!!".toList, "tag:yaml.org,2002:".toList)]
  match known.lookup handle with
  | some start => return start ++ rest
  | none => failure

def anchor : Read (Option (List Char)) := do
  match ← peek with
  | some (.anchor name) =>
    skip
    return some name
  | _ => return none

def tag : Read (Option (List Char)) := do
  match ← peek with
  | some (.tag handle rest) =>
    skip
    return some (← resolveTag handle rest)
  | _ => return none

def bind (name : Option (List Char)) (node : Option Node) : Read Unit :=
  match name with
  | none => return
  | some name => modify fun r => { r with anchors := (name, node) :: r.anchors }

mutual

/-- Reads a node.  `inBlock`: it may be a block; `isMember`: it may be a sequence whose
dashes stand in the column of the keys. -/
def node : Nat → Bool → Bool → Read Node
  | 0, _, _ => failure
  | n + 1, inBlock, isMember => do
    if let some (.alias name) ← peek then
      skip
      match (← get).anchors.lookup name with
      | some (some found) => return found
      | _ => failure
    else
      let first ← anchor
      let tag ← tag
      let name ← if first.isSome then pure first else anchor
      bind name none
      let node ← content n inBlock isMember tag (name.isSome || tag.isSome)
      bind name (some node)
      return node

/-- Reads a node behind its anchor and tag, which allow it to be empty. -/
def content : Nat → Bool → Bool → Option (List Char) → Bool → Read Node
  | 0, _, _, _, _ => failure
  | n + 1, inBlock, isMember, tag, mayBeEmpty => do
    match ← peek with
    | some .entry =>
      if isMember then return .sequence (← memberEntries n)
      else if mayBeEmpty then return .scalar .plain tag []
      else failure
    | some (.scalar style text) =>
      skip
      return .scalar style tag text
    | some .flowSequence =>
      skip
      return .sequence (← flowEntries n true)
    | some .flowMapping =>
      skip
      return .mapping (← flowMembers n true)
    | some .blockSequence =>
      if inBlock then
        skip
        return .sequence (← blockEntries n)
      else if mayBeEmpty then return .scalar .plain tag []
      else failure
    | some .blockMapping =>
      if inBlock then
        skip
        return .mapping (← blockMembers n)
      else if mayBeEmpty then return .scalar .plain tag []
      else failure
    | _ => if mayBeEmpty then return .scalar .plain tag [] else failure

/-- Reads a node unless one of these tokens is next. -/
def nodeUnless : Nat → List Token → Bool → Bool → Read Node
  | 0, _, _, _ => failure
  | n + 1, ends, inBlock, isMember => do
    if ← sees ends then return .nothing
    else node n inBlock isMember

def blockEntries : Nat → Read (List Node)
  | 0 => failure
  | n + 1 => do
    if ← takes .entry then
      let item ← nodeUnless n [.entry, .blockEnd] true false
      return item :: (← blockEntries n)
    else
      expects .blockEnd
      return []

/-- Reads the entries of a sequence whose dashes stand in the column of the keys. -/
def memberEntries : Nat → Read (List Node)
  | 0 => failure
  | n + 1 => do
    if ← takes .entry then
      let item ← nodeUnless n [.entry, .key, .value, .blockEnd] true false
      return item :: (← memberEntries n)
    else return []

def blockMembers : Nat → Read (List (Node × Node))
  | 0 => failure
  | n + 1 => do
    if ← takes .key then
      let key ← nodeUnless n [.key, .value, .blockEnd] true true
      let value ←
        if ← takes .value then nodeUnless n [.key, .value, .blockEnd] true true
        else pure .nothing
      return (key, value) :: (← blockMembers n)
    else
      expects .blockEnd
      return []

/-- Reads the entries of a flow sequence; one of them may be a member without braces. -/
def flowEntries : Nat → Bool → Read (List Node)
  | 0, _ => failure
  | n + 1, isFirst => do
    if ← takes .flowSequenceEnd then return []
    if !isFirst then expects .comma
    if ← takes .key then
      let key ← nodeUnless n [.value, .comma, .flowSequenceEnd] false false
      let value ←
        if ← takes .value then nodeUnless n [.comma, .flowSequenceEnd] false false
        else pure .nothing
      return .mapping [(key, value)] :: (← flowEntries n false)
    else if ← takes .flowSequenceEnd then return []
    else
      let item ← node n false false
      return item :: (← flowEntries n false)

def flowMembers : Nat → Bool → Read (List (Node × Node))
  | 0, _ => failure
  | n + 1, isFirst => do
    if ← takes .flowMappingEnd then return []
    if !isFirst then expects .comma
    if ← takes .key then
      let key ← nodeUnless n [.value, .comma, .flowMappingEnd] false false
      let value ←
        if ← takes .value then nodeUnless n [.comma, .flowMappingEnd] false false
        else pure .nothing
      return (key, value) :: (← flowMembers n false)
    else if ← takes .flowMappingEnd then return []
    else
      let key ← node n false false
      return (key, .nothing) :: (← flowMembers n false)

end

def directives : Nat → Bool → Read Unit
  | 0, _ => failure
  | n + 1, hasVersion => do
    match ← peek with
    | some (.version major minor) =>
      if hasVersion || major != 1 || (minor != 1 && minor != 2) then failure
      skip
      directives n true
    | some (.handle name start) =>
      if ((← get).handles.lookup name).isSome then failure
      skip
      modify fun r => { r with handles := (name, start) :: r.handles }
      directives n hasVersion
    | _ => return

def documentEnds : Nat → Read Unit
  | 0 => failure
  | n + 1 => do if ← takes .documentEnd then documentEnds n

/-- Reads the only document of a text, none when the text holds nothing. -/
def document (n : Nat) : Read (Option Node) := do
  let node ← match ← peek with
    | none => return none
    | some (.version ..) | some (.handle ..) | some .documentStart =>
      directives n false
      expects .documentStart
      match ← peek with
      | none | some (.version ..) | some (.handle ..) => pure .nothing
      | _ => nodeUnless n [.documentStart, .documentEnd] true false
    | _ => node n true false
  documentEnds n
  if (← peek).isSome then failure
  return some node

end Read

/-- The only document of a text, none when the text holds nothing; the outer `none`
when the text is not YAML or holds more than one document. -/
def read? (text : List Char) : Option (Option Node) := do
  let tokens ← tokens? text
  let (node, _) ← (Read.document (4 * tokens.length + 4)).run { tokens }
  return node

end ObjectRelay.Yaml
