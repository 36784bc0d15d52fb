import ObjectRelay.Json.Value
/-!
# Shapes of JSON documents

A shape says what a document must hold to be understood: which fields, of which
kind, and which of them may be missing.  Reading under a shape keeps what the shape
names and nothing else, so two documents that differ only in unknown fields read
the same.  A record may also be written as an array of its fields in order.
-/
namespace ObjectRelay.Json

/-- Whether a field of a record may be missing. -/
inductive Presence where
  | required
  /-- It may be missing from an object, not from the array form. -/
  | named
  /-- It may be missing, in the array form from the end. -/
  | optional
deriving DecidableEq, Repr

/-- What becomes of the members of a record that are none of its fields. -/
inductive Others where
  | skipped
  /-- There may be none. -/
  | refused
  /-- They are kept as they are; such a record has no array form. -/
  | kept
deriving DecidableEq, Repr

inductive Shape where
  | any
  /-- A value that is passed over: its structure is checked, its content is not. -/
  | ignored
  | text
  /-- An integer of 64 bits with a sign. -/
  | integer
  | flag
  | nullable (shape : Shape)
  | list (item : Shape)
  /-- An object whose members all have the shape. -/
  | table (value : Shape)
  | record (fields : List (String × Presence × Shape)) (others : Others)

namespace Shape

/-- Reads a number, string, word or `null` under a shape. -/
def scalar : Shape → Json → Option Json
  | any, v => some v
  | ignored, v => some v
  | text, .string s => some (.string s)
  | integer, .number (.int i) =>
    if -0x8000000000000000 ≤ i && i < 0x8000000000000000 then some (.number (.int i)) else none
  | flag, .bool b => some (.bool b)
  | nullable _, .null => some .null
  | nullable s, v => scalar s v
  | _, _ => none

/-- The shape of the value once it is known not to be `null`. -/
def present : Shape → Shape
  | nullable s => present s
  | s => s

end Shape

abbrev Field := String × Presence × Shape

def Field.find? (fields : List Field) (name : String) : Option Field :=
  fields.find? fun f => f.1 == name

def Field.mayBeMissing (f : Field) : Bool := f.2.1 != .required

def Field.mayBeCut (f : Field) : Bool := f.2.1 == .optional

/-- Whether `null` stands for a missing value of the field. -/
def Field.isNullable (f : Field) : Bool := match f.2.2 with
  | .nullable _ => true
  | _ => false

/-- A record once all its members are known: `null` where that means missing is dropped. -/
def recordOf (fields : List Field) (members : List (String × Json)) : Json :=
  object (members.filter fun (name, value) =>
    match value, Field.find? fields name with
    | .null, some f => !f.isNullable
    | _, _ => true)

def allPresent (fields : List Field) (members : List (String × Json)) : Bool :=
  fields.all fun f => f.mayBeMissing || (members.lookup f.1).isSome

mutual

/-- Reads a value that is already known under a shape, `none` when it does not fit. -/
def Shape.conform : Shape → Json → Option Json
  | .any, v => some v
  | .ignored, v => some v
  | .text, v => Shape.scalar .text v
  | .integer, v => Shape.scalar .integer v
  | .flag, v => Shape.scalar .flag v
  | .nullable _, .null => some .null
  | .nullable s, v => Shape.conform s v
  | .list s, .array items => (items.mapM (Shape.conform s)).map .array
  | .list _, _ => none
  | .table s, .object members =>
    (members.mapM fun m => (Shape.conform s m.2).map fun v => (m.1, v)).map .object
  | .table _, _ => none
  | .record fields others, .object members => do
    let found ← conformNamed fields members
    let unknown := members.filter fun (name, _) => (Field.find? fields name).isNone
    if !allPresent fields found || (others == .refused && !unknown.isEmpty) then none
    else if others == .kept then
      some (recordOf fields (unknown.foldl (fun done (name, v) => insert name v done) found))
    else some (recordOf fields found)
  | .record fields others, .array items => do
    let found ← conformOrdered fields items
    if others == .kept then none else some (recordOf fields found)
  | .record _ _, _ => none

/-- The fields of a record that an object holds, read under their shapes. -/
def conformNamed : List (String × Presence × Shape) → List (String × Json) →
    Option (List (String × Json))
  | [], _ => some []
  | (name, _, s) :: fields, members => do
    let rest ← conformNamed fields members
    match members.lookup name with
    | none => some rest
    | some v => do
      let v ← Shape.conform s v
      some (insert name v rest)

/-- The fields of a record read from an array, one item each. -/
def conformOrdered : List (String × Presence × Shape) → List Json →
    Option (List (String × Json))
  | [], [] => some []
  | [], _ :: _ => none
  | (_, p, _) :: fields, [] => if p == .optional then conformOrdered fields [] else none
  | (name, _, s) :: fields, v :: items => do
    let v ← Shape.conform s v
    let rest ← conformOrdered fields items
    some (insert name v rest)

end

/-! ## Looking into a record that was read -/

/-- The text in a field, empty when it is missing. -/
def textAt (name : String) (v : Json) : String := match v.member? name with
  | some (.string s) => s
  | _ => ""

def textAt? (name : String) (v : Json) : Option String := match v.member? name with
  | some (.string s) => some s
  | _ => none

def integerAt? (name : String) (v : Json) : Option Int := match v.member? name with
  | some (.number (.int i)) => some i
  | _ => none

/-- The items in a field, none when it is missing. -/
def itemsAt (name : String) (v : Json) : List Json := match v.member? name with
  | some (.array items) => items
  | _ => []

/-- The record in a field, one without members when it is missing. -/
def recordAt (name : String) (v : Json) : Json := (v.member? name).getD (.object [])

def flagAt (name : String) (v : Json) : Bool := match v.member? name with
  | some (.bool b) => b
  | _ => false

end ObjectRelay.Json
