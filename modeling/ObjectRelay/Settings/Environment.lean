import ObjectRelay.Number.Unsigned
import ObjectRelay.Text.Blank
import ObjectRelay.Text.Cut
import ObjectRelay.Text.Quoted
/-!
# Named settings

Settings come as text under names.  White space around a setting never counts, and a
setting that is blank counts as absent, so an empty value cannot switch a default off.
-/
namespace ObjectRelay

/-- Text under names; of several entries under one name the first counts. -/
abbrev Environment := List (String × String)

structure InvalidSetting where
  name : String
  value : String
  reason : String
deriving DecidableEq, Repr

def InvalidSetting.message (e : InvalidSetting) : String :=
  "invalid " ++ e.name ++ " " ++ quoted e.value ++ ": " ++ e.reason

namespace Environment

def text? (env : Environment) (name : String) : Option String :=
  match env.lookup name with
  | none => none
  | some value => match trimBlank value with
    | "" => none
    | s => some s

/-- The items of a setting between its commas, blank ones left out. -/
def items? (env : Environment) (name : String) : Option (List String) :=
  (env.text? name).map fun s =>
    ((piecesBy ',' s.toList).map fun item => trimBlank (String.ofList item)).filter (· != "")

/-- A setting read by a reader that refuses with a reason. -/
def read? {α : Type} (reader : String → Except String α) (env : Environment) (name : String) :
    Except InvalidSetting (Option α) :=
  match env.text? name with
  | none => .ok none
  | some value => match reader value with
    | .ok a => .ok (some a)
    | .error reason => .error { name, value, reason }

def number? (limit : Nat) : Environment → String → Except InvalidSetting (Option Nat) :=
  read? fun s => (Unsigned.read limit s.toList).mapError NumberFault.message

/-- A number of 64 bits, or a default. -/
def number (env : Environment) (name : String) (default : Nat) : Except InvalidSetting Nat := do
  return (← env.number? (UInt64.size - 1) name).getD default

def flag (env : Environment) (name : String) (default : Bool) : Except InvalidSetting Bool := do
  let given ← env.read? readFlag name
  return given.getD default
where
  readFlag : String → Except String Bool
    | "true" => .ok true
    | "false" => .ok false
    | _ => .error "provided string was not \x60true\x60 or \x60false\x60"

end Environment

end ObjectRelay
