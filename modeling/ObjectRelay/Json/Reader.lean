import ObjectRelay.Json.NumberReader
import ObjectRelay.Json.StringReader
import ObjectRelay.Json.Shape
/-!
# Reading JSON byte by byte

A stream of JSON values is read by a machine that looks at one byte at a time and
keeps the containers it is inside of on a stack.  What it has given out so far
depends on the bytes so far and on nothing else, so bytes that follow, or a read
that fails, can only add to it.

The shape of the values is known beforehand: a value of the wrong kind is an error
as soon as it shows, and the members that the shape does not name are passed over.
-/
namespace ObjectRelay.Json

inductive Fault where
  /-- The text ends inside a value. -/
  | truncated
  /-- The text is JSON, but not of the expected shape. -/
  | mismatched
  /-- The text is not JSON, or too great or deep to be read. -/
  | malformed
  /-- The bytes behind this point could not be read. -/
  | unreadable
deriving DecidableEq, Repr

inductive Frame where
  /-- An array; its items last first. -/
  | items (shape : Shape) (done : List Json)
  /-- A record in its array form: the fields still to come and those read. -/
  | ordered (all : List Field) (coming : List Field) (done : List (String × Json))
  /-- An object all of whose members have one shape, and the name being read. -/
  | table (shape : Shape) (name : String) (done : List (String × Json))
  /-- A record, and the name being read. -/
  | record (fields : List Field) (others : Others) (name : String) (done : List (String × Json))

inductive Mode where
  /-- A value.  Outside all containers the stream may end instead. -/
  | value
  /-- The first item or member of a container, or its end. -/
  | opened
  /-- A comma, or the end of the container. -/
  | follow
  | name
  | colon
  /-- The rest of a word that stands for a value. -/
  | word (rest : List UInt8) (value : Json)
  | number (r : NumberReader)
  /-- More of a string, which may be the name of a member. -/
  | string (r : StringReader) (isName : Bool)
  /-- Behind a word outside all containers: something that ends it. -/
  | ending (value : Json)

/-- The reader of a stream of values: what is expected, inside which containers. -/
structure Reader where
  mode : Mode := .value
  stack : List Frame := []

/-- Containers may be nested this deep. -/
def maxDepth : Nat := 127

/-- The blanks between the parts of a JSON text. -/
def isSpace (b : UInt8) : Bool := b == 0x20 || b == 0x0A || b == 0x09 || b == 0x0D

/-- Bytes that may stand right behind a word or number outside all containers:
blanks, and those that begin, end or separate other parts. -/
def isDelimiter (b : UInt8) : Bool :=
  isSpace b || b == 0x22 || b == 0x5B || b == 0x5D || b == 0x7B || b == 0x7D || b == 0x2C ||
    b == 0x3A

def Frame.expected : Frame → Shape
  | .items s _ => s
  | .ordered _ (f :: _) _ => f.2.2
  | .ordered _ [] _ => .ignored
  | .table s _ _ => s
  | .record fields others name _ =>
    match Field.find? fields name with
    | some f => f.2.2
    | none => match others with
      | .skipped | .refused => .ignored
      | .kept => .any

/-- Takes a value that has been read into a container. -/
def Frame.add (frame : Frame) (v : Json) : Frame :=
  match frame with
  | .items s done => .items s (v :: done)
  | .ordered all (f :: coming) done => .ordered all coming (insert f.1 v done)
  | .ordered all [] done => .ordered all [] done
  | .table s name done => .table s name (match s with
    | .ignored => done
    | _ => insert name v done)
  | .record fields others name done =>
    match Field.find? fields name, others with
    | none, .skipped | none, .refused => .record fields others name done
    | _, _ => .record fields others name (insert name v done)

/-- Takes the name of the next member, `none` when a field is given twice, or is unknown
where only known ones may be. -/
def Frame.named (frame : Frame) (name : String) : Option Frame :=
  match frame with
  | .table s _ done => some (.table s name done)
  | .record fields others _ done =>
    let isKnown := (Field.find? fields name).isSome
    if (isKnown && (done.lookup name).isSome) || (!isKnown && others == .refused) then none
    else some (.record fields others name done)
  | other => some other

/-- The finished container when `b` closes it. -/
def Frame.close? (frame : Frame) (b : UInt8) : Option (Except Fault Json) :=
  match frame with
  | .items _ done => if b == 0x5D then some (.ok (.array done.reverse)) else none
  | .ordered all coming done =>
    if b == 0x5D then
      some (if coming.all Field.mayBeCut then .ok (recordOf all done) else .error .mismatched)
    else none
  | .table _ _ done => if b == 0x7D then some (.ok (.object done)) else none
  | .record fields _ _ done =>
    if b == 0x7D then
      some (if allPresent fields done then .ok (recordOf fields done) else .error .mismatched)
    else none

/-- Whether the container holds members rather than items. -/
def Frame.hasNames : Frame → Bool
  | .table .. | .record .. => true
  | _ => false

/-- Whether the names of the members are passed over too. -/
def Frame.passesNames : Frame → Bool
  | .table .ignored _ _ => true
  | _ => false

/-- The container that `b` opens for a value of this shape. -/
def Shape.open? (s : Shape) (b : UInt8) : Option Frame :=
  if b == 0x5B then
    match s.present with
    | .any => some (.items .any [])
    | .ignored => some (.items .ignored [])
    | .list item => some (.items item [])
    | .record _ .kept => none
    | .record fields _ => some (.ordered fields fields [])
    | _ => none
  else
    match s.present with
    | .any => some (.table .any "" [])
    | .ignored => some (.table .ignored "" [])
    | .table v => some (.table v "" [])
    | .record fields others => some (.record fields others "" [])
    | _ => none

def Shape.isIgnored : Shape → Bool
  | .ignored => true
  | _ => false

namespace Reader

/-- What a byte does: it may complete a value, and then the reader goes on or the byte
is a fault. -/
abbrev Step := Option Json × Except Fault Reader

def going (r : Reader) : Step := (none, .ok r)

def fault (e : Fault) : Step := (none, .error e)

def expected (top : Shape) (r : Reader) : Shape := match r.stack with
  | [] => top
  | frame :: _ => frame.expected

/-- Passes on a value that is complete and of the right shape. -/
def deliver (stack : List Frame) (v : Json) : Step :=
  match stack with
  | [] => (some v, .ok {})
  | frame :: rest => going { mode := .follow, stack := frame.add v :: rest }

def begin (top : Shape) (r : Reader) (b : UInt8) : Step :=
  let shape := r.expected top
  if b == 0x6E then going { r with mode := .word (Utf8.encode "ull") .null }
  else if b == 0x74 then going { r with mode := .word (Utf8.encode "rue") (.bool true) }
  else if b == 0x66 then going { r with mode := .word (Utf8.encode "alse") (.bool false) }
  else if b == 0x22 then going { r with mode := .string { ignored := shape.isIgnored } false }
  else if b == 0x5B || b == 0x7B then
    match shape.open? b with
    | none => fault .mismatched
    | some frame =>
      if !shape.isIgnored && maxDepth ≤ r.stack.length then fault .malformed
      else going { mode := .opened, stack := frame :: r.stack }
  else
    match NumberReader.start? shape.isIgnored b with
    | some n => going { r with mode := .number n }
    | none => fault .malformed

def closing (frame : Frame) (rest : List Frame) (b : UInt8) : Step :=
  match frame.close? b with
  | some (.ok v) => deliver rest v
  | some (.error e) => fault e
  | none => fault .malformed

/-- Reads a byte where blanks are allowed: between the parts of a text. -/
def between (top : Shape) (r : Reader) (b : UInt8) : Step :=
  if isSpace b then going r
  else
    match r.mode, r.stack with
    | .opened, frame :: rest =>
      if b == 0x5D || b == 0x7D then closing frame rest b
      else if frame.hasNames then
        if b == 0x22 then going { r with mode := .string { ignored := frame.passesNames } true }
        else fault .malformed
      else begin top r b
    | .follow, frame :: rest =>
      if b == 0x2C then
        match frame with
        | .ordered _ [] _ => fault .malformed
        | _ => going { r with mode := if frame.hasNames then .name else .value }
      else closing frame rest b
    | .name, frame :: _ =>
      if b == 0x22 then going { r with mode := .string { ignored := frame.passesNames } true }
      else fault .malformed
    | .colon, _ => if b == 0x3A then going { r with mode := .value } else fault .malformed
    | _, _ => begin top r b
/-- Reads the byte behind a word or number outside all containers: the value is
complete if the byte can stand there, whatever it means for the next one. -/
def ended (top : Shape) (v : Json) (b : UInt8) : Step :=
  if isDelimiter b then (some v, (between top {} b).2) else fault .malformed

def step (top : Shape) (r : Reader) (b : UInt8) : Step :=
  match r.mode with
  | .word (c :: rest) v =>
    if b != c then fault .malformed
    else if !rest.isEmpty then going { r with mode := .word rest v }
    else
      match (r.expected top).scalar v with
      | none => fault .mismatched
      | some v =>
        if r.stack.isEmpty then going { r with mode := .ending v } else deliver r.stack v
  | .word [] _ => fault .malformed
  | .number n =>
    match n.step b with
    | .more n => going { r with mode := .number n }
    | .broken => fault .malformed
    | .ended =>
      match numberValue n (r.expected top) with
      | .error e => fault e
      | .ok v =>
        match r.stack with
        | [] => ended top v b
        | frame :: rest => between top { mode := .follow, stack := frame.add v :: rest } b
  | .string s isName =>
    match s.step b with
    | .more s => going { r with mode := .string s isName }
    | .broken => fault .malformed
    | .ended bytes =>
      match Utf8.decode? bytes with
      | none => fault .malformed
      | some text =>
        if isName then
          match r.stack with
          | [] => fault .malformed
          | frame :: rest => match frame.named text with
            | none => fault .mismatched
            | some frame => going { mode := .colon, stack := frame :: rest }
        else match (r.expected top).scalar (.string text) with
          | none => fault .mismatched
          | some v => deliver r.stack v
  | .ending v => ended top v b
  | _ => between top r b
where
  numberValue (n : NumberReader) (shape : Shape) : Except Fault Json :=
    if n.ignored then .ok .null
    else match n.number? with
      | none => .error .malformed
      | some x => match shape.scalar (.number x) with
        | none => .error .mismatched
        | some v => .ok v

/-- What the end of the bytes means: a last value, nothing, or a text cut short. -/
def finish (top : Shape) (r : Reader) : Except Fault (Option Json) :=
  match r.mode with
  | .value => if r.stack.isEmpty then .ok none else .error .truncated
  | .ending v => .ok (some v)
  | .number n =>
    if n.isComplete then
      match step.numberValue n (r.expected top) with
      | .error e => .error e
      | .ok v => if r.stack.isEmpty then .ok (some v) else .error .truncated
    else .error (if n.ignored then .malformed else .truncated)
  | _ => .error .truncated

def isIdle (r : Reader) : Bool := match r.mode with
  | .value => r.stack.isEmpty
  | _ => false

end Reader

/-! ## A single document -/

/-- Reads one value of the given shape and the blanks around it. -/
def readFrom (top : Shape) (r : Reader) : List UInt8 → Except Fault Json
  | [] => match r.finish top with
    | .ok (some v) => .ok v
    | .ok none => .error .truncated
    | .error e => .error e
  | b :: rest => match r.step top b with
    | (none, .error e) => .error e
    | (none, .ok r) => readFrom top r rest
    | (some v, .ok r) => if r.isIdle && rest.all isSpace then .ok v else .error .malformed
    | (some _, .error _) => .error .malformed

def read (top : Shape) (text : String) : Except Fault Json :=
  readFrom top {} (Utf8.encode text)

def parse (text : String) : Except Fault Json := read .any text

end ObjectRelay.Json
